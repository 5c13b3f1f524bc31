import OneTimeCode.Json.Basic
import OneTimeCode.Proofs.Text.Trimming

/-!
# How values that are no texts are shown

Numbers, truth values, null, lists and objects are shown by a text that starts with a digit, a sign,
a bracket or the first letter of one of five words. So none of them is ever shown, with blanks
around it or not, as a text that starts with another letter.
-/
namespace OneTimeCode
open Text

namespace Integer

def StartsWithDigit (t : Text) : Prop := ∃ c rest, t = .char c :: rest ∧ c.isDigit = true

theorem startsWithDigit_natText (n : Nat) : StartsWithDigit (natText n) := by
  unfold natText
  cases hd : Nat.toDigits 10 n with
  | nil => exact absurd hd Nat.toDigits_ne_nil
  | cons c rest =>
    have hc : c ∈ Nat.toDigits 10 n := by rw [hd]; exact List.mem_cons_self
    exact ⟨c, rest.map .char, rfl, Nat.isDigit_of_mem_toDigits (by omega) (by omega) hc⟩

theorem StartsWithDigit.append {t : Text} (h : StartsWithDigit t) (rest : Text) :
    StartsWithDigit (t ++ rest) := by
  obtain ⟨c, tail, rfl, hc⟩ := h
  exact ⟨c, tail ++ rest, rfl, hc⟩

theorem StartsWithDigit.take {t : Text} (h : StartsWithDigit t) {n : Nat} (hn : 0 < n) :
    StartsWithDigit (t.take n) := by
  obtain ⟨c, tail, rfl, hc⟩ := h
  obtain ⟨m, rfl⟩ := Nat.exists_eq_add_of_lt hn
  refine ⟨c, tail.take m, ?_, hc⟩
  rw [Nat.zero_add, List.take_succ_cons]

end Integer

namespace Binary64
open Integer

theorem startsWithDigit_layout {digits : Text} (h : StartsWithDigit digits) (point : Int) :
    StartsWithDigit (layout digits point) := by
  unfold layout
  split
  · split
    · exact ⟨'0', _, rfl, by decide⟩
    · split
      · exact (h.append _).append _
      · exact ((h.take (by omega)).append _).append _
  · exact (((h.take (by omega)).append _).append _).append _

theorem startsWithDigit_magnitudeText (steps : Nat) : StartsWithDigit (magnitudeText steps) := by
  have hzero : StartsWithDigit "0.0" := ⟨'0', _, rfl, by decide⟩
  unfold magnitudeText
  split
  · exact hzero
  · split
    · exact hzero
    · exact startsWithDigit_layout (startsWithDigit_natText _) _

end Binary64

namespace Json
open Integer

/-- The characters that the text of a value other than a text may start with. -/
def isOpening (c : CodePoint) : Bool :=
  c.satisfies Char.isDigit || [('N' : CodePoint), 'T', 'F', 'n', 'i', '-', '[', '\x7b'].contains c

theorem isOpening_of_isDigit {c : Char} (h : c.isDigit = true) : isOpening c = true := by
  simp [isOpening, CodePoint.satisfies, h]

theorem isBlank_of_isDigit {c : Char} (h : c.isDigit = true) : isBlank c = false := by
  simp only [Char.isDigit, Bool.and_eq_true, decide_eq_true_eq, ge_iff_le,
    UInt32.le_iff_toNat_le] at h
  have hl : 48 ≤ c.toNat := h.1
  have hu : c.toNat ≤ 57 := h.2
  unfold isBlank inRanges
  rw [List.any_eq_false]
  intro r hr
  simp only [blankRanges, List.mem_cons, List.not_mem_nil, or_false] at hr
  rw [Bool.and_eq_true, decide_eq_true_eq, decide_eq_true_eq, CodePoint.toNat_char]
  rcases hr with rfl | rfl | rfl | rfl | rfl | rfl | rfl | rfl | rfl | rfl <;> omega

theorem isBlank_of_isOpening {c : CodePoint} (h : isOpening c = true) : isBlank c = false := by
  unfold isOpening at h
  rcases Bool.or_eq_true_iff.1 h with h | h
  · cases c with
    | char c => exact isBlank_of_isDigit h
    | half offset => cases h
  · have hall : ∀ d ∈ [('N' : CodePoint), 'T', 'F', 'n', 'i', '-', '[', '\x7b'],
        isBlank d = false := by decide
    exact hall c (by simpa using h)

theorem exists_opening_float (x : Binary64) :
    ∃ c rest, x.text = c :: rest ∧ isOpening c = true := by
  have hsigned (negative : Bool) {t : Text} (ht : ∃ c rest, t = c :: rest ∧ isOpening c = true) :
      ∃ c rest, Binary64.sign negative ++ t = c :: rest ∧ isOpening c = true := by
    cases negative with
    | true => exact ⟨'-', t, rfl, by decide⟩
    | false => exact ht
  cases x with
  | nan => exact ⟨'n', _, rfl, by decide⟩
  | infinity negative => exact hsigned negative ⟨'i', _, rfl, by decide⟩
  | finite negative steps =>
    obtain ⟨c, rest, ht, hc⟩ := Binary64.startsWithDigit_magnitudeText steps
    exact hsigned negative ⟨c, rest, ht, isOpening_of_isDigit hc⟩

theorem exists_opening_int (n : Int) :
    ∃ c rest, Integer.text n = c :: rest ∧ isOpening c = true := by
  cases n with
  | ofNat n =>
    obtain ⟨c, rest, ht, hc⟩ := startsWithDigit_natText n
    exact ⟨c, rest, ht, isOpening_of_isDigit hc⟩
  | negSucc n => exact ⟨'-', _, rfl, by decide⟩

/-- What a value that is no text looks like at its start. -/
theorem exists_opening {value : Json} (h : value.text? = none) :
    ∃ c rest, value.display = c :: rest ∧ isOpening c = true := by
  have hd : value.display = value.literal := by rw [display, h]; rfl
  rw [hd]
  cases value with
  | null => exact ⟨'N', _, rfl, by decide⟩
  | bool value => cases value with
    | true => exact ⟨'T', _, rfl, by decide⟩
    | false => exact ⟨'F', _, rfl, by decide⟩
  | int n =>
    rw [literal]
    exact exists_opening_int n
  | float x =>
    rw [literal]
    exact exists_opening_float x
  | text t => cases h
  | list items => exact ⟨'[', _, rfl, by decide⟩
  | object members => exact ⟨'\x7b', _, rfl, by decide⟩

theorem text_of_trim_display {value : Json} {c : CodePoint} {rest : Text}
    (h : trim value.display = c :: rest) (hc : isOpening c = false) :
    ∃ t, value = .text t ∧ trim t = c :: rest := by
  cases ht : value.text? with
  | some t =>
    cases value with
    | text u =>
      refine ⟨u, rfl, ?_⟩
      rwa [display_text] at h
    | _ => cases ht
  | none =>
    obtain ⟨d, tail, hd, ho⟩ := exists_opening ht
    rw [hd, trim_cons (isBlank_of_isOpening ho), List.cons.injEq] at h
    rw [h.1, hc] at ho
    cases ho

end Json
end OneTimeCode
