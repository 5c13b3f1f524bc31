import OneTimeCode.Proofs.Text.Trimming
import OneTimeCode.Proofs.Verification.Approval
import OneTimeCode.Proofs.Verification.Handover

/-!
# Where approvals go

A confirmation of characters is refused only if its identifier is blank. Otherwise it goes to the
address of verifications, a slash, and a segment that spells the trimmed identifier, so different
identifiers never share an address and no identifier leaves its place in it.
-/
namespace OneTimeCode
open Text

namespace Percent

structure Spells (segment t : Text) : Prop where
  made : IsSegment segment
  decoded : decode? segment = some t
  slash : (CodePoint.char '/') ∉ segment
  query : (CodePoint.char '?') ∉ segment
  fragment : (CodePoint.char '#') ∉ segment

theorem spells_of_encode {t segment : Text} (h : encode t = .ok segment) : Spells segment t := by
  have hmark {mark : CodePoint} (hm : ¬ IsSafe mark) : mark ∉ segment := not_mem_encode h hm
  exact ⟨isSegment_encode h, decode?_encode h, hmark not_isSafe_slash,
    hmark (by unfold IsSafe; decide), hmark (by unfold IsSafe; decide)⟩

theorem Spells.ne_nil {segment t : Text} (h : Spells segment t) (ht : t ≠ []) : segment ≠ [] := by
  rintro rfl
  have hempty : decode? [] = some [] := rfl
  exact ht (Option.some.inj (h.decoded.symm.trans hempty))

end Percent

theorem isEncodable_trim {t : Text} (h : Utf8.IsEncodable t) : Utf8.IsEncodable (trim t) :=
  fun c hc => h c (mem_of_mem_trim hc)

/-- Whatever the policy, the letter is posted to the address with that body. -/
def Letter.GoesTo (letter : Letter) (url body : Text) : Prop :=
  ∀ policy : Policy, ∃ post, policy.post letter = .ok post ∧ post.url = .text url ∧ post.body = body

namespace Client

theorem goesTo_approvalLetter (client : Client) (segment : Text) :
    (client.approvalLetter segment).GoesTo
      (client.settings.verificationsUrl ++ "/" ++ segment) "Status=approved" := by
  intro policy
  have hbody : Form.encode (client.approvalLetter segment).form = .ok "Status=approved" := rfl
  exact ⟨_, by rw [Policy.post, hbody]; rfl, rfl, rfl⟩

/-- The confirmation is handed over in one job that can always be posted, and all its posts report
the approval at the address of the segment. -/
structure ReportsAt (client : Client) (call : ConfirmCall) (segment : Text) : Prop where
  handed : client.HandsOver (.confirm call) (client.approvalLetter segment)
    (.approval call.agent call.context)
  encodable : Form.AreEncodable (client.approvalLetter segment).form
  goes : (client.approvalLetter segment).GoesTo
    (client.settings.verificationsUrl ++ "/" ++ segment) "Status=approved"
  posted : ∀ before, ∀ made ∈ client.jobPosts (.confirm call) before,
    made.url = .text (client.settings.verificationsUrl ++ "/" ++ segment) ∧
      made.body = "Status=approved"

theorem reportsAt_of_compose {client : Client} {call : ConfirmCall} {segment : Text}
    (hc : (client.compose (.confirm call)).answer =
      .ok (client.approvalLetter segment, .approval call.agent call.context)) :
    client.ReportsAt call segment := by
  have hhanded := handsOver_of_compose hc rfl
  refine ⟨hhanded, client.areEncodable_approvalLetter segment,
    client.goesTo_approvalLetter segment, fun before made hmade => ?_⟩
  obtain ⟨post, hpost, hurl, hbody⟩ :=
    client.goesTo_approvalLetter segment client.session.policy
  cases hpost.symm.trans (hhanded.posted before made hmade)
  exact ⟨hurl, hbody⟩

theorem HandsOver.approvalLetter {client : Client} {call : ConfirmCall} {letter : Letter}
    {purpose : Purpose} (h : client.HandsOver (.confirm call) letter purpose) :
    ∃ segment, Percent.encode (trim call.id.textOrEmpty) = .ok segment ∧
      letter = client.approvalLetter segment := by
  have hcomposed := h.composed
  by_cases hb : trim call.id.textOrEmpty = []
  · rw [compose_confirm_of_blank client hb] at hcomposed
    cases hcomposed
  · by_cases he : Utf8.IsEncodable (trim call.id.textOrEmpty)
    · obtain ⟨segment, hs, hc⟩ := client.compose_confirm_of_isEncodable hb he
      rw [hc] at hcomposed
      cases hcomposed
      exact ⟨segment, hs, rfl⟩
    · obtain ⟨fault, hf⟩ := client.compose_confirm_of_not_isEncodable hb he
      rw [hf] at hcomposed
      cases hcomposed

theorem HandsOver.url_eq_iff {client next : Client} (hsettings : next.settings = client.settings)
    {call other : ConfirmCall} {letter otherLetter : Letter} {purpose otherPurpose : Purpose}
    (h : client.HandsOver (.confirm call) letter purpose)
    (ho : next.HandsOver (.confirm other) otherLetter otherPurpose) :
    letter.url = otherLetter.url ↔ trim call.id.textOrEmpty = trim other.id.textOrEmpty := by
  obtain ⟨segment, hs, rfl⟩ := h.approvalLetter
  obtain ⟨otherSegment, hos, rfl⟩ := ho.approvalLetter
  have hurl : (next.approvalLetter otherSegment).url =
      .text (client.settings.verificationsUrl ++ "/" ++ otherSegment) := by
    rw [← hsettings]
    rfl
  rw [hurl]
  constructor
  · intro hu
    have hsegment : segment = otherSegment := List.append_cancel_left (Json.text.inj hu)
    exact Percent.encode_injective hs (hsegment ▸ hos)
  · intro ht
    rw [ht, hos] at hs
    cases hs
    rfl

/-- A confirmation with an identifier of characters is refused exactly if the identifier is blank,
and then nothing happens. Otherwise it is handed over in one job whose posts report the approval at
an address of its own for the trimmed identifier: the posts of a later confirmation go there only if
that identifier is the same once it is trimmed. -/
theorem confirms_at_own_address (client : Client) {id : Text} (h : Utf8.IsEncodable id)
    (agent context : Json) :
    let call : ConfirmCall := ⟨.text id, agent, context⟩
    (∀ error, (client.call (.confirm call)).1.answer = .error error ↔
      trim id = [] ∧ error = .noVerificationId) ∧
    (trim id = [] → client.call (.confirm call) = (⟨.error .noVerificationId, [], []⟩, client)) ∧
    (trim id ≠ [] → ∃ segment, segment ≠ [] ∧ Percent.Spells segment (trim id) ∧
      client.ReportsAt call segment) ∧
    ∀ (later : List Action) (otherId : Text) (otherAgent otherContext : Json)
      (letter otherLetter : Letter) (purpose otherPurpose : Purpose),
      let next := (client.acts later).2
      let other : ConfirmCall := ⟨.text otherId, otherAgent, otherContext⟩
      client.HandsOver (.confirm call) letter purpose →
      next.HandsOver (.confirm other) otherLetter otherPurpose →
      (letter.url = otherLetter.url ↔ trim id = trim otherId) ∧
      ∀ before, ∀ made ∈ client.jobPosts (.confirm call) before,
        ∀ otherBefore, ∀ otherMade ∈ next.jobPosts (.confirm other) otherBefore,
          (made.url = otherMade.url ↔ trim id = trim otherId) := by
  intro call
  have hid : call.id.textOrEmpty = id := Json.textOrEmpty_text id
  have hblank (hb : trim id = []) :
      client.call (.confirm call) = (⟨.error .noVerificationId, [], []⟩, client) := by
    rw [← hid] at hb
    rw [call_of_compose_error (compose_confirm_of_blank client hb)]
    rfl
  have hreports (hb : trim id ≠ []) : ∃ segment, Percent.encode (trim id) = .ok segment ∧
      client.ReportsAt call segment := by
    have he := isEncodable_trim h
    rw [← hid] at hb he
    obtain ⟨segment, hs, hc⟩ := client.compose_confirm_of_isEncodable hb he
    rw [hid] at hs
    exact ⟨segment, hs, reportsAt_of_compose hc⟩
  refine ⟨fun error => ?_, hblank, fun hb => ?_, ?_⟩
  · by_cases hb : trim id = []
    · rw [hblank hb]
      simp [hb, eq_comm]
    · obtain ⟨segment, -, hr⟩ := hreports hb
      rw [hr.handed.taken]
      simp [hb]
  · obtain ⟨segment, hs, hr⟩ := hreports hb
    have hspells := Percent.spells_of_encode hs
    exact ⟨segment, hspells.ne_nil hb, hspells, hr⟩
  · intro later otherId otherAgent otherContext letter otherLetter purpose otherPurpose next other
      hhanded hother
    have hotherId : other.id.textOrEmpty = otherId := Json.textOrEmpty_text otherId
    have hiff := hhanded.url_eq_iff (client.settings_acts later) hother
    rw [hid, hotherId] at hiff
    refine ⟨hiff, fun before made hmade otherBefore otherMade hotherMade => ?_⟩
    rw [(Session.post_eq_ok (hhanded.posted before made hmade)).1,
      (Session.post_eq_ok (hother.posted otherBefore otherMade hotherMade)).1]
    exact hiff

theorem confirms_marks_and_letters :
    let client := scripted []
    let id : Text := " 50%/é "
    let call : ConfirmCall := ⟨.text id, .null, .text "registration"⟩
    Utf8.IsEncodable id ∧ trim id ≠ [] ∧
      (∀ error, (client.call (.confirm call)).1.answer ≠ .error error) ∧
      (client.jobPosts (.confirm call) []).length = 1 ∧
      ∃ segment, segment ≠ [] ∧ Percent.Spells segment (trim id) ∧
        client.ReportsAt call segment := by
  intro client id call
  have hencodable : Utf8.IsEncodable id := by decide
  have hfilled : trim id ≠ [] := by decide
  obtain ⟨hrefused, -, hreports, -⟩ :=
    confirms_at_own_address client hencodable .null (.text "registration")
  exact ⟨hencodable, hfilled, fun error he => hfilled ((hrefused error).1 he).1, by decide +kernel,
    hreports hfilled⟩

end Client
end OneTimeCode
