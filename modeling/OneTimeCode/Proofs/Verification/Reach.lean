import OneTimeCode.Proofs.Encoding.DotSegments
import OneTimeCode.Proofs.Settings
import OneTimeCode.Proofs.Verification.Addresses
import OneTimeCode.Proofs.Verification.Attempts
import OneTimeCode.Proofs.Verification.Refusals

/-!
# What an approval reaches

The segment of an approval holds nothing that structures a web address, but it may consist of dots.
Once the address is resolved, an approval stays below the verifications of the service unless its
identifier is a dot segment: one dot leads to the verifications themselves and two dots lead to the
service above them.
-/
namespace OneTimeCode
open Text

namespace Address

/-- A query or a fragment begins in the address. -/
def IsCut (url : Text) : Prop := url.any isMark = true

instance (url : Text) : Decidable (IsCut url) := inferInstanceAs (Decidable (_ = _))

/-- Behind the collection the segment stays where it is put when the address is resolved. -/
def StaysBelow (collection segment : Text) : Prop :=
  resolve (collection ++ "/" ++ segment) = resolve collection ++ "/" ++ segment

theorem resolve_web {scheme : Text} (h : scheme ∈ Settings.webSchemes) (t : Text) :
    resolve (scheme ++ t) = removeDots [] (pathBehind t) := by
  simp only [Settings.webSchemes, List.mem_cons, List.not_mem_nil, or_false] at h
  rcases h with rfl | rfl <;> rfl

theorem isCut_web {scheme : Text} (h : scheme ∈ Settings.webSchemes) (t : Text) :
    IsCut (scheme ++ t) ↔ t.any isMark = true := by
  have hscheme : scheme.any isMark = false :=
    (by decide : ∀ s ∈ Settings.webSchemes, s.any isMark = false) scheme h
  rw [IsCut, List.any_append, hscheme, Bool.false_or]

theorem finish_two {segment : Text} (hs : (CodePoint.char '/') ∉ segment) (front : Text) :
    finish (front ++ .char '/' :: segment) ".." = front ++ "/" := by
  have hreached : enter (front ++ .char '/' :: segment) ".." = front := dropSegment_append hs front
  rw [finish, if_pos (.inr rfl), hreached]

theorem length_dropSegment_le (path : Text) : (dropSegment path).length ≤ path.length := by
  have hdrop :=
    (List.dropWhile_suffix (l := path.reverse) fun (c : CodePoint) => c != '/').length_le
  rw [dropSegment, List.length_reverse, List.length_drop]
  rw [List.length_reverse] at hdrop
  omega

theorem finish_eq_append_iff (output segment : Text) :
    finish output segment = output ++ .char '/' :: segment ↔ segment ≠ "." ∧ segment ≠ ".." := by
  by_cases hone : segment = "."
  · refine iff_of_false (fun he => ?_) fun hne => hne.1 hone
    rw [hone] at he
    have hlength : output.length + 1 = output.length + 2 := by
      simpa [finish, enter, ofString] using congrArg List.length he
    omega
  · by_cases htwo : segment = ".."
    · refine iff_of_false (fun he => ?_) fun hne => hne.2 htwo
      rw [htwo] at he
      have hlength : (dropSegment output).length + 1 = output.length + 3 := by
        simpa [finish, enter, ofString] using congrArg List.length he
      have hle := length_dropSegment_le output
      omega
    · rw [finish, if_neg (not_or.2 ⟨hone, htwo⟩), enter, if_neg hone, if_neg htwo]
      exact iff_of_true rfl ⟨hone, htwo⟩

end Address

open Address

/-- The verifications of a service are resolved to a place below the service, and a further segment
is met there. In an address that was cut before, it does not count. -/
theorem Settings.ReadFrom.resolve_segment {settings : Settings} {draft : Draft}
    (h : settings.ReadFrom draft) {segment : Text} (hs : (CodePoint.char '/') ∉ segment)
    (hm : segment.any isMark = false) :
    let collection := settings.verificationsUrl
    (IsCut collection → resolve (collection ++ "/" ++ segment) = resolve collection) ∧
    (¬ IsCut collection → ∃ service, resolve collection = service ++ "/Verifications" ∧
      resolve (collection ++ "/" ++ segment) = finish (service ++ "/Verifications") segment) := by
  intro collection
  obtain ⟨scheme, hscheme, rest, horigin⟩ := h.exists_scheme
  let base : Text := rest ++ "/v2/Services/" ++ settings.service
  have hbase : (CodePoint.char '/') ∈ base := by
    refine List.mem_append_left _ (List.mem_append_right rest ?_)
    decide
  have hcollection : collection = scheme ++ (base ++ "/Verifications") := by
    simp only [collection, verificationsUrl, horigin, base, List.append_assoc]
  have hurl : collection ++ "/" ++ segment =
      scheme ++ (base ++ "/Verifications" ++ .char '/' :: segment) := by
    rw [hcollection, List.append_assoc, List.append_assoc]
    rfl
  have hpath : pathBehind (base ++ "/Verifications" ++ .char '/' :: segment) =
      if (base ++ "/Verifications").any isMark then pathBehind (base ++ "/Verifications")
      else pathBehind (base ++ "/Verifications") ++ .char '/' :: segment := by
    have hall : ∀ c ∈ .char '/' :: segment, (!isMark c) = true := by
      intro c hc
      rcases List.mem_cons.1 hc with rfl | hc
      · rfl
      · simpa using List.any_eq_false.1 hm c hc
    rw [pathBehind_append (List.mem_append_left _ hbase), List.takeWhile_eq_self_iff.2 hall]
  rw [hurl, hcollection, isCut_web hscheme, resolve_web hscheme, resolve_web hscheme, hpath]
  refine ⟨fun hcut => by rw [if_pos hcut], fun hcut => ?_⟩
  have hbare : base.any isMark = false := by
    rw [← Bool.not_eq_true]
    intro hmark
    exact hcut (by rw [List.any_append, hmark, Bool.true_or])
  obtain ⟨front, hfront⟩ := exists_pathBehind hbase hbare
  have hname : pathBehind (base ++ "/Verifications") = .char '/' :: front ++ "/Verifications" := by
    rw [pathBehind_append hbase, hbare, if_neg Bool.false_ne_true, hfront]
    rfl
  rw [if_neg hcut, hname]
  exact removeDots_below (by decide) (by decide) (by decide) hs front

namespace Percent

/-- A text that spells itself is the only one with that spelling. -/
theorem spells_itself_iff {t segment itself : Text} (h : encode t = .ok segment)
    (hi : encode itself = .ok itself) : segment = itself ↔ t = itself := by
  constructor
  · rintro rfl
    exact encode_injective h hi
  · rintro rfl
    exact Except.ok.inj (h.symm.trans hi)

theorem Spells.any_isMark {segment t : Text} (h : Spells segment t) :
    segment.any isMark = false := by
  rw [List.any_eq_false]
  intro c hc hmark
  rw [isMark, Bool.or_eq_true, decide_eq_true_eq, decide_eq_true_eq] at hmark
  rcases hmark with rfl | rfl
  · exact h.query hc
  · exact h.fragment hc

end Percent

namespace Client

theorem reportsAt_of_answer {client : Client} {call : ConfirmCall} {promise : Promise}
    (h : (client.call (.confirm call)).1.answer = .ok promise) :
    ∃ segment, Percent.encode (trim call.id.textOrEmpty) = .ok segment ∧
      trim call.id.textOrEmpty ≠ [] ∧ client.ReportsAt call segment := by
  have hno : ¬ ∃ error, (client.compose (.confirm call)).answer = .error error := by
    rintro ⟨error, he⟩
    rw [answer_call_eq_error_iff.2 he] at h
    cases h
  rw [compose_confirm_eq_error_iff, not_or, Decidable.not_not] at hno
  obtain ⟨segment, hs, hc⟩ := client.compose_confirm_of_isEncodable hno.1 hno.2
  exact ⟨segment, hs, hno.1, reportsAt_of_compose hc⟩

/-- A confirmation that is taken on is posted to an address whose last segment spells the identifier.
Once the address is resolved, it is that of the verifications with the segment behind it exactly if
the identifier is neither one dot nor two dots and the settings bring no query or fragment into the
address. Else one dot leads to the verifications, two dots lead to the service, and a cut address is
resolved to the same place for every identifier. -/
theorem approval_stays_below_iff {draft : Draft} {client : Client}
    (hd : Settings.ofDraft draft = .ok client.settings) {call : ConfirmCall} {promise : Promise}
    (h : (client.call (.confirm call)).1.answer = .ok promise) :
    let id := trim call.id.textOrEmpty
    let collection := client.settings.verificationsUrl
    ∃ segment, segment ≠ [] ∧ Percent.Spells segment id ∧ client.ReportsAt call segment ∧
      (∀ before, ∀ made ∈ client.jobPosts (.confirm call) before,
        made.url = .text (collection ++ "/" ++ segment)) ∧
      (StaysBelow collection segment ↔ id ≠ "." ∧ id ≠ ".." ∧ ¬ IsCut collection) ∧
      (IsCut collection → resolve (collection ++ "/" ++ segment) = resolve collection) ∧
      (¬ IsCut collection → id = "." →
        resolve (collection ++ "/" ++ segment) = resolve collection ++ "/") ∧
      (¬ IsCut collection → id = ".." → ∃ service,
        resolve collection = service ++ "/Verifications" ∧
        resolve (collection ++ "/" ++ segment) = service ++ "/") := by
  intro id collection
  obtain ⟨segment, hs, hid, hreports⟩ := reportsAt_of_answer h
  have hspells := Percent.spells_of_encode hs
  have hone : segment = "." ↔ id = "." := Percent.spells_itself_iff hs rfl
  have htwo : segment = ".." ↔ id = ".." := Percent.spells_itself_iff hs rfl
  obtain ⟨hcut, hwhole⟩ :=
    (Settings.ofDraft_eq_ok_iff.1 hd).resolve_segment hspells.slash hspells.any_isMark
  have hfilled := hspells.ne_nil hid
  refine ⟨segment, hfilled, hspells, hreports,
    fun before made hmade => (hreports.posted before made hmade).1, ?_, hcut, ?_, ?_⟩
  · by_cases hc : IsCut collection
    · refine iff_of_false (fun hstays => ?_) fun hall => hall.2.2 hc
      have hmore : resolve collection = resolve collection ++ ("/" ++ segment) := by
        rw [← List.append_assoc]
        exact (hcut hc).symm.trans hstays
      exact List.cons_ne_nil _ _ (List.self_eq_append_right.1 hmore)
    · obtain ⟨service, hresolve, hurl⟩ := hwhole hc
      have hstays : StaysBelow collection segment ↔
          finish (service ++ "/Verifications") segment =
            service ++ "/Verifications" ++ .char '/' :: segment := by
        have hbehind : service ++ "/Verifications" ++ "/" ++ segment =
            service ++ "/Verifications" ++ .char '/' :: segment := List.append_assoc ..
        rw [StaysBelow, hurl, hresolve, hbehind]
      rw [hstays, finish_eq_append_iff, ne_eq, hone, ne_eq, htwo]
      exact and_congr_right fun _ => (and_iff_left hc).symm
  · intro hc hdot
    obtain ⟨service, hresolve, hurl⟩ := hwhole hc
    rw [hurl, hresolve, hone.2 hdot]
    rfl
  · intro hc hdots
    obtain ⟨service, hresolve, hurl⟩ := hwhole hc
    refine ⟨service, hresolve, ?_⟩
    rw [hurl, htwo.2 hdots]
    exact finish_two (by decide) service

theorem approval_of_three_dots_stays_below :
    let client := scripted []
    let collection := client.settings.verificationsUrl
    ∃ promise, (client.call (.confirm ⟨.text " ...", .null, .text "login"⟩)).1.answer = .ok promise ∧
      Settings.ofDraft .plain = .ok client.settings ∧
      ∃ segment, Percent.Spells segment "..." ∧ StaysBelow collection segment := by
  intro client collection
  have hanswer : ∃ promise,
      (client.call (.confirm ⟨.text " ...", .null, .text "login"⟩)).1.answer = .ok promise :=
    ⟨_, rfl⟩
  obtain ⟨promise, hp⟩ := hanswer
  obtain ⟨segment, -, hspells, -, -, hstays, -⟩ :=
    approval_stays_below_iff Settings.ofDraft_plain hp
  exact ⟨promise, hp, Settings.ofDraft_plain, segment, hspells,
    hstays.2 ⟨by decide, by decide, by decide⟩⟩

/-- An identifier of two dots is taken on and posted to, but the address is resolved to that of the
service. -/
theorem two_dots_lead_to_service :
    let client := scripted []
    let collection := client.settings.verificationsUrl
    let trace := (client.call (.confirm ⟨.text "..", .null, .text "login"⟩)).1
    trace.posts.map (·.url.display) = [collection ++ "/" ++ ".."] ∧
      ¬ StaysBelow collection ".." ∧
      resolve collection = "/v2/Services/VA1/Verifications" ∧
      resolve (collection ++ "/" ++ "..") = "/v2/Services/VA1/" := by
  intro client collection trace
  have hresolve : resolve collection = "/v2/Services/VA1/Verifications" := by decide +kernel
  have hurl : resolve (collection ++ "/" ++ "..") = "/v2/Services/VA1/" := by decide +kernel
  refine ⟨by decide +kernel, ?_, hresolve, hurl⟩
  rw [StaysBelow, hurl, hresolve]
  decide

end Client
end OneTimeCode
