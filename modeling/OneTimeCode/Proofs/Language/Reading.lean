import OneTimeCode.Language.Item
import OneTimeCode.Proofs.Results
import OneTimeCode.Proofs.Text.Pieces

/-!
# Reading language ranges

A text is read as a range exactly if it is the text of one, blanks around it and the case of its
letters apart. So an item of a preference list denotes at most one range, and a list is refused for
its first item that denotes none.
-/
namespace OneTimeCode
open Text

theorem hyphen_not_mem_of_isSubtag {p : Char → Bool} (hp : p '-' = false) {subtag : Text}
    (h : isSubtag p subtag = true) : (CodePoint.char '-') ∉ subtag := by
  rw [isSubtag, Bool.or_eq_true, decide_eq_true_eq] at h
  intro hm
  rcases h with rfl | h
  · exact absurd hm (by decide)
  · rw [Bool.and_eq_true, List.all_eq_true] at h
    have := h.2 _ hm
    rw [CodePoint.satisfies, hp] at this
    cases this

namespace LanguageRange

theorem subtags_ne_nil (range : LanguageRange) : range.subtags ≠ [] := by
  intro h
  have hw := range.wellFormed
  rw [h] at hw
  cases hw

theorem hyphen_not_mem (range : LanguageRange) :
    ∀ subtag ∈ range.subtags, (CodePoint.char '-') ∉ subtag := by
  have hw := range.wellFormed
  cases hs : range.subtags with
  | nil => exact fun _ h => absurd h List.not_mem_nil
  | cons first rest =>
    rw [hs, areSubtags, Bool.and_eq_true, List.all_eq_true] at hw
    intro subtag hm
    rcases List.mem_cons.1 hm with rfl | hm
    · exact hyphen_not_mem_of_isSubtag (by decide) hw.1
    · exact hyphen_not_mem_of_isSubtag (by decide) (hw.2 _ hm)

theorem pieces_text (range : LanguageRange) : pieces '-' range.text = range.subtags :=
  pieces_join range.subtags_ne_nil range.hyphen_not_mem

theorem ofText_eq_ok_iff {given : Text} {weight : Weight} {range : LanguageRange} :
    ofText given weight = .ok range ↔
      range.text = lower (trim given) ∧ range.weight = weight := by
  simp only [ofText, build, Json.textOrEmpty_text]
  constructor
  · intro h
    split at h
    · cases h
      exact ⟨join_pieces '-' _, rfl⟩
    · cases h
  · rintro ⟨ht, rfl⟩
    have hs : normalize given = range.subtags := by rw [normalize, ← ht, pieces_text]
    rw [dif_pos (hs ▸ range.wellFormed)]
    simp only [hs]
    rfl

theorem ofText_eq_error {given : Text} {weight : Weight} {error : RangeError}
    (h : ofText given weight = .error error) : error = .malformedRange (.text given) := by
  simp only [ofText, build] at h
  split at h
  · cases h
  · cases h
    rfl

end LanguageRange

namespace RangeItem

/-- A finished range denotes itself, any other value the full-weight range that its text spells. -/
inductive Denotes : RangeItem → LanguageRange → Prop
  | built (range : LanguageRange) : Denotes (.built range) range
  | plain {value : Json} {range : LanguageRange} (spelled : range.text = lower (trim value.display))
      (full : range.weight = .full) : Denotes (.plain value) range

theorem range_eq_ok_iff {item : RangeItem} {range : LanguageRange} :
    item.range = .ok range ↔ item.Denotes range := by
  cases item with
  | built other =>
    constructor
    · intro h
      cases h
      exact .built range
    · intro h
      cases h
      rfl
  | plain value =>
    rw [RangeItem.range, LanguageRange.ofText_eq_ok_iff]
    constructor
    · rintro ⟨hs, hw⟩
      exact .plain hs hw
    · intro h
      cases h with
      | plain hs hw => exact ⟨hs, hw⟩

theorem range_eq_error {item : RangeItem} {error : RangeError} (h : item.range = .error error) :
    ∃ value, item = .plain value ∧ error = .malformedRange (.text value.display) := by
  cases item with
  | built range => cases h
  | plain value => exact ⟨value, rfl, LanguageRange.ofText_eq_error h⟩

end RangeItem

namespace RangeItem

theorem mapM_range_eq_ok_iff {items : List RangeItem} {ranges : List LanguageRange} :
    items.mapM range = .ok ranges ↔ List.Forall₂ Denotes items ranges := by
  simp only [mapM_eq_ok_iff, range_eq_ok_iff]

/-- A list is refused for its first item that denotes no range, which is named as it was shown. -/
theorem mapM_range_eq_error {items : List RangeItem} {error : RangeError}
    (h : items.mapM range = .error error) :
    ∃ before value after, items = before ++ .plain value :: after ∧
      (∀ item ∈ before, ∃ range, item.Denotes range) ∧
      (∀ range, ¬ (plain value).Denotes range) ∧
      error = .malformedRange (.text value.display) := by
  obtain ⟨before, item, after, rfl, hitem, hbefore⟩ := mapM_eq_error h
  obtain ⟨value, rfl, herror⟩ := range_eq_error hitem
  refine ⟨before, value, after, rfl, ?_, ?_, herror⟩
  · intro item hm
    obtain ⟨range, hr⟩ := hbefore item hm
    exact ⟨range, range_eq_ok_iff.1 hr⟩
  · intro range hd
    rw [range_eq_ok_iff.2 hd] at hitem
    cases hitem

end RangeItem
end OneTimeCode
