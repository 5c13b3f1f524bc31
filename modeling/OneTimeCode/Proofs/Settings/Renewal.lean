import OneTimeCode.Proofs.Settings
import OneTimeCode.Proofs.Text.Trimming

/-!
# Settings given once more

The identifiers of accepted settings are trimmed and stay as they are when the settings are given
once more. An origin is trimmed before its slashes are dropped, so a blank in front of the slashes
is left at its end. It goes when the settings are given again, and more slashes with it; if nothing
but slashes stood behind the scheme, the settings are refused then.
-/
namespace OneTimeCode.Settings
open Text

def again (s : Settings) : Draft where
  account := .text s.account
  token := .text s.token
  service := .text s.service
  appHash := s.appHash
  friendlyName := s.friendlyName
  origin := .text s.origin
  timeout := s.timeout
  retries := s.retries
  workers := s.workers

/-- A trimmed identifier is read as it is. -/
theorem readIdentifier_again {identifier other : Identifier} {given : Json} {id : Text}
    (h : readIdentifier identifier given = .ok id) : readIdentifier other (.text id) = .ok id := by
  obtain ⟨rfl, hne⟩ := readIdentifier_eq_ok_iff.1 h
  rw [readIdentifier_eq_ok_iff, Json.textOrEmpty_text, trim_trim]
  exact ⟨rfl, hne⟩

theorem checkLimit_again {limit : Limit} {given kept : Json}
    (h : checkLimit limit given = .ok kept) : checkLimit limit kept = .ok kept := by
  have he := eq_of_checkLimit h
  rwa [← he] at h

/-- Only the origin is read anew. -/
theorem ReadFrom.ofDraft_again {settings : Settings} {draft : Draft} (h : settings.ReadFrom draft) :
    ofDraft settings.again = (readOrigin (.text settings.origin)).map fun origin =>
      { settings with origin := origin } := by
  simp only [ofDraft, again, readIdentifier_again h.account, readIdentifier_again h.token,
    readIdentifier_again h.service, checkLimit_again h.timeout, checkLimit_again h.retries,
    checkLimit_again h.workers]
  cases readOrigin (.text settings.origin) <;> rfl

/-! ## Origins -/

theorem not_isSlash_of_isBlank {c : CodePoint} (h : isBlank c = true) :
    decide (c = .char '/') = false := by
  rw [decide_eq_false_iff_not]
  rintro rfl
  exact absurd h (by decide)

/-- An address does not begin with a blank, so it is trimmed at its end only. -/
theorem trim_of_isWebAddress {t : Text} (h : IsWebAddress t) :
    trim t = dropTrailing isBlank t := by
  obtain ⟨scheme, hscheme, rest, rfl⟩ := h
  have hfirst : isBlank (.char 'h') = false := by decide
  have hbegins : ∃ others, scheme = .char 'h' :: others := by
    simp only [webSchemes, List.mem_cons, List.not_mem_nil, or_false] at hscheme
    rcases hscheme with rfl | rfl <;> exact ⟨_, rfl⟩
  obtain ⟨others, rfl⟩ := hbegins
  rw [List.cons_append, trim_cons hfirst, dropTrailing_cons hfirst]

theorem trim_web {scheme : Text} (h : scheme ∈ webSchemes) (rest : Text) :
    trim (scheme ++ rest) = scheme ++ dropTrailing isBlank rest := by
  have hslash : isBlank (.char '/') = false := by decide
  have hends : ∃ front, scheme = front ++ [.char '/'] := by
    simp only [webSchemes, List.mem_cons, List.not_mem_nil, or_false] at h
    rcases h with rfl | rfl
    · exact ⟨"http:/", rfl⟩
    · exact ⟨"https:/", rfl⟩
  rw [trim_of_isWebAddress ⟨scheme, h, rest, rfl⟩]
  obtain ⟨front, rfl⟩ := hends
  rw [List.append_assoc, List.singleton_append, dropTrailing_append_cons hslash,
    List.append_assoc, List.singleton_append]

/-- Without the slashes at its end an address is one exactly if something else stands behind the
scheme. -/
theorem isWebAddress_dropTrailing_iff {scheme : Text} (h : scheme ∈ webSchemes) (rest : Text) :
    IsWebAddress (dropTrailing (· = '/') (scheme ++ rest)) ↔
      ¬ ∀ c ∈ rest, decide (c = .char '/') = true := by
  constructor
  · intro hweb hall
    rw [dropTrailing_append hall] at hweb
    exact (by decide : ∀ s ∈ webSchemes, ¬ IsWebAddress (dropTrailing (· = '/') s)) scheme h hweb
  · intro hnot
    obtain ⟨front, c, back, rfl, hc, hback⟩ := exists_last_of_not_all hnot
    rw [← List.append_assoc, dropTrailing_append_cons hc, dropTrailing_of_all hback,
      List.append_assoc]
    exact ⟨scheme, h, _, rfl⟩

namespace ReadFrom
variable {settings : Settings} {draft : Draft}

theorem not_endsIn_slash (h : settings.ReadFrom draft) :
    ¬ EndsIn (· = '/') settings.origin := by
  rw [h.origin_eq]
  exact not_endsIn_dropTrailing _ _

/-- The origin is what it would be read as exactly if no blank was left at its end. -/
theorem normalOrigin_origin_eq_iff (h : settings.ReadFrom draft) :
    normalOrigin settings.origin = settings.origin ↔ ¬ EndsIn isBlank settings.origin := by
  have htrim := trim_of_isWebAddress h.exists_scheme
  constructor
  · intro he
    have hslashes : settings.origin.length ≤ (dropTrailing isBlank settings.origin).length := by
      have hle := (List.rdropWhile_prefix (· = .char '/') (trim settings.origin)).length_le
      change (normalOrigin settings.origin).length ≤ _ at hle
      rwa [he, htrim] at hle
    have hblanks := (List.rdropWhile_prefix isBlank settings.origin).eq_of_length_le hslashes
    exact dropTrailing_eq_self_iff.1 hblanks
  · intro hends
    rw [normalOrigin, htrim, dropTrailing_eq_self_iff.2 hends]
    exact dropTrailing_eq_self_iff.2 h.not_endsIn_slash

/-- A blank is left at the end exactly if one stood in front of the slashes. -/
theorem endsIn_blank_iff (h : settings.ReadFrom draft) :
    EndsIn isBlank settings.origin ↔ ∃ front blank slashes,
      trim draft.origin.textOrEmpty = front ++ blank :: slashes ∧ isBlank blank = true ∧
        ∀ c ∈ slashes, c = .char '/' := by
  rw [h.origin_eq, normalOrigin, endsIn_dropTrailing_iff fun c hc => not_isSlash_of_isBlank hc]
  simp only [decide_eq_true_eq]

end ReadFrom

/-- Read once more an address is none exactly if nothing but slashes stands between its scheme and
the blanks at its end. -/
theorem not_isWebAddress_normalOrigin_iff {t : Text} (h : IsWebAddress t) :
    ¬ IsWebAddress (normalOrigin t) ↔ ∃ scheme ∈ webSchemes, ∃ slashes blanks,
      t = scheme ++ slashes ++ blanks ∧ (∀ c ∈ slashes, c = .char '/') ∧
        ∀ c ∈ blanks, isBlank c = true := by
  constructor
  · intro hnot
    obtain ⟨scheme, hscheme, rest, rfl⟩ := h
    rw [normalOrigin, trim_web hscheme, isWebAddress_dropTrailing_iff hscheme,
      Decidable.not_not] at hnot
    obtain ⟨blanks, hrest, hblanks⟩ := exists_eq_dropTrailing_append isBlank rest
    refine ⟨scheme, hscheme, dropTrailing isBlank rest, blanks, ?_, ?_, hblanks⟩
    · rw [List.append_assoc, ← hrest]
    · simpa only [decide_eq_true_eq] using hnot
  · rintro ⟨scheme, hscheme, slashes, blanks, rfl, hslashes, hblanks⟩
    rw [normalOrigin, List.append_assoc, trim_web hscheme, dropTrailing_append hblanks,
      isWebAddress_dropTrailing_iff hscheme, Decidable.not_not]
    intro c hc
    exact decide_eq_true (hslashes c ((List.rdropWhile_prefix isBlank slashes).subset hc))

/-- The identifiers of accepted settings are trimmed and not empty, and the origin does not end with
a slash. Given once more, the settings are accepted as they are exactly if the origin does not end
with a blank, that is if none stood in front of the slashes at its end. Otherwise they get the
shorter origin, and another address with it, or are refused because nothing but slashes stood behind
the scheme. -/
theorem ofDraft_again_eq_self_iff {draft : Draft} {settings : Settings}
    (h : ofDraft draft = .ok settings) :
    (∀ id ∈ [settings.account, settings.token, settings.service], id ≠ [] ∧ trim id = id) ∧
    ¬ EndsIn (· = '/') settings.origin ∧
    (EndsIn isBlank settings.origin ↔ ∃ front blank slashes,
      trim draft.origin.textOrEmpty = front ++ blank :: slashes ∧ isBlank blank = true ∧
        ∀ c ∈ slashes, c = .char '/') ∧
    (ofDraft settings.again = .ok settings ↔ ¬ EndsIn isBlank settings.origin) ∧
    (∀ next, ofDraft settings.again = .ok next →
      next = { settings with origin := normalOrigin settings.origin } ∧
      (next.verificationsUrl = settings.verificationsUrl ↔ ¬ EndsIn isBlank settings.origin)) ∧
    ((∃ error, ofDraft settings.again = .error error) ↔
      ∃ scheme ∈ webSchemes, ∃ slashes blanks, settings.origin = scheme ++ slashes ++ blanks ∧
        (∀ c ∈ slashes, c = .char '/') ∧ ∀ c ∈ blanks, isBlank c = true) := by
  have hread := ofDraft_eq_ok_iff.1 h
  have hagain := hread.ofDraft_again
  have hkept := hread.normalOrigin_origin_eq_iff
  have hnext (next : Settings) : ofDraft settings.again = .ok next ↔
      next = { settings with origin := normalOrigin settings.origin } ∧
        IsWebAddress (normalOrigin settings.origin) := by
    rw [hagain, map_eq_ok_iff]
    simp only [readOrigin_eq_ok_iff, Json.textOrEmpty_text]
    constructor
    · rintro ⟨origin, ⟨rfl, hweb⟩, rfl⟩
      exact ⟨rfl, hweb⟩
    · rintro ⟨rfl, hweb⟩
      exact ⟨_, ⟨rfl, hweb⟩, rfl⟩
  have hid {identifier : Identifier} {given : Json} {id : Text}
      (hi : readIdentifier identifier given = .ok id) : id ≠ [] ∧ trim id = id := by
    obtain ⟨rfl, hne⟩ := readIdentifier_eq_ok_iff.1 hi
    exact ⟨hne, trim_trim _⟩
  refine ⟨?_, hread.not_endsIn_slash, hread.endsIn_blank_iff, ?_, ?_, ?_⟩
  · simpa using ⟨hid hread.account, hid hread.token, hid hread.service⟩
  · rw [hnext, ← hkept]
    constructor
    · intro he
      exact (congrArg Settings.origin he.1).symm
    · intro he
      rw [he]
      exact ⟨rfl, hread.exists_scheme⟩
  · intro next hn
    obtain ⟨rfl, -⟩ := (hnext next).1 hn
    refine ⟨rfl, ?_⟩
    rw [← hkept]
    simp [verificationsUrl]
  · rw [← not_isWebAddress_normalOrigin_iff hread.exists_scheme]
    cases hf : ofDraft settings.again with
    | ok next => simp [((hnext next).1 hf).2]
    | error error =>
      refine iff_of_true ⟨error, rfl⟩ fun hweb => ?_
      rw [(hnext _).2 ⟨rfl, hweb⟩] at hf
      cases hf

def draftAt (origin : Text) : Draft where
  account := .text " AC1 "
  token := .text "secret"
  service := .text "VA1"
  origin := .text origin

theorem ofDraft_again_of_padded :
    ∃ settings, ofDraft (draftAt " https://verify.example// ") = .ok settings ∧
      settings.account = "AC1" ∧ settings.origin = "https://verify.example" ∧
      ofDraft settings.again = .ok settings := by
  have hread : ∃ settings, ofDraft (draftAt " https://verify.example// ") = .ok settings ∧
      settings.account = "AC1" ∧ settings.origin = "https://verify.example" := ⟨_, rfl, rfl, rfl⟩
  obtain ⟨settings, hs, haccount, horigin⟩ := hread
  have hends : ¬ EndsIn isBlank settings.origin := by
    rw [horigin, ← dropTrailing_eq_self_iff]
    decide
  exact ⟨settings, hs, haccount, horigin, (ofDraft_again_eq_self_iff hs).2.2.2.1.2 hends⟩

/-- A blank in front of the last slash is kept, and the settings come out different when they are
given again, or are refused. -/
theorem blank_before_slash_stays :
    (∃ settings others, ofDraft (draftAt "https://verify.example /") = .ok settings ∧
      settings.origin = "https://verify.example " ∧
      ofDraft settings.again = .ok others ∧ others.origin = "https://verify.example") ∧
    ∃ settings, ofDraft (draftAt "http:// /") = .ok settings ∧ settings.origin = "http:// " ∧
      ofDraft settings.again = .error (.noWebAddress (.text "http:// ")) :=
  ⟨⟨_, _, rfl, rfl, rfl, rfl⟩, _, rfl, rfl, rfl⟩

end OneTimeCode.Settings
