import OneTimeCode.Text.Blank
import OneTimeCode.Text.Case

/-!
# Lowering to ASCII

The only code point outside ASCII whose lower case is an ASCII character is the Kelvin sign, which
becomes the letter `k`. So a text is lowered to a given ASCII text exactly if it is so letter by
letter once the letter `k` is written for the Kelvin sign.
-/
namespace OneTimeCode
namespace CodePoint

theorem forall_ascii {p : CodePoint → Prop} (h : ∀ n < 0x80, p (Char.ofNat n)) {c : CodePoint}
    (hc : c.toNat < 0x80) : p c := by
  cases c with
  | half offset =>
    simp only [toNat, firstHalf] at hc
    omega
  | char c =>
    have hp := h c.toNat hc
    rwa [Char.ofNat_toNat] at hp

theorem map_toLower_of_le {c : CodePoint} (h : 0x80 ≤ c.toNat) : c.map Char.toLower = c := by
  cases c with
  | half offset => rfl
  | char c =>
    refine congrArg CodePoint.char (dif_neg fun hupper => ?_)
    have hle : c.toNat ≤ 0x5A := hupper.2
    rw [toNat_char] at h
    omega

theorem map_toUpper_of_le {c : CodePoint} (h : 0x80 ≤ c.toNat) : c.map Char.toUpper = c := by
  cases c with
  | half offset => rfl
  | char c =>
    refine congrArg CodePoint.char (dif_neg fun hlower => ?_)
    have hle : c.toNat ≤ 0x7A := hlower.2
    rw [toNat_char] at h
    omega

theorem toNat_lt (c : CodePoint) : c.toNat < 0x110000 := by
  cases c with
  | half offset =>
    simp only [toNat, firstHalf]
    omega
  | char c =>
    have hv := c.valid
    simp only [UInt32.isValidChar, Nat.isValidChar] at hv
    show c.val.toNat < _
    omega

end CodePoint

namespace Text

def kelvin : CodePoint := .ofNat 0x212A

/-- The letter `k` for the Kelvin sign. -/
def plainLetter (c : CodePoint) : CodePoint := if c = kelvin then 'k' else c

/-- No run but that of the Kelvin sign leads into ASCII. -/
theorem lowerRuns_apart : ∀ r ∈ lowerRuns, r.2.1 < 0x80 ∨ (r.1 = 0x212A ∧ r.2.1 = 0x212A) ∨
    (0x80 ≤ (r.1 : Int) + r.2.2.2 ∧ (r.2.1 : Int) + r.2.2.2 < 0x110000) := by decide +kernel

theorem lowerCodePoint_bounds {n : Nat} (h : 0x80 ≤ n) (hn : n < 0x110000) (hk : n ≠ 0x212A) :
    0x80 ≤ lowerCodePoint n ∧ lowerCodePoint n < 0x110000 := by
  unfold lowerCodePoint
  split
  · next r hr =>
    have hin := List.find?_some hr
    simp only [Bool.and_eq_true, decide_eq_true_eq] at hin
    have hcases := lowerRuns_apart r (List.mem_of_find?_eq_some hr)
    omega
  · exact ⟨h, hn⟩

theorem exists_mem_lowerPoint {c : CodePoint} (h : 0x80 ≤ c.toNat) (hk : c ≠ kelvin) :
    ∃ d ∈ lowerPoint c, 0x80 ≤ d.toNat := by
  unfold lowerPoint
  rw [if_neg (Nat.not_lt.2 h)]
  split
  · exact ⟨.ofNat 0x307, by simp, by decide⟩
  · have hne : c.toNat ≠ 0x212A := fun he => hk (CodePoint.toNat_injective he)
    obtain ⟨hlow, hhigh⟩ := lowerCodePoint_bounds h c.toNat_lt hne
    exact ⟨_, List.mem_singleton_self _, by rwa [CodePoint.toNat_ofNat hhigh]⟩

theorem lowerPoint_kelvin : lowerPoint kelvin = [.char 'k'] := by decide +kernel

theorem lowerAt_of_ne {c : CodePoint} (h : c ≠ capitalSigma) (seen rest : Text) :
    lowerAt seen c rest = lowerPoint c := by simp [lowerAt, h]

theorem plainLetter_of_ne {c : CodePoint} (hk : c ≠ kelvin) : plainLetter c = c := if_neg hk

theorem map_plainLetter {t : Text} (h : kelvin ∉ t) : t.map plainLetter = t := by
  rw [List.map_congr_left fun c hc => plainLetter_of_ne (ne_of_mem_of_not_mem hc h)]
  exact List.map_id t

/-- In any surroundings a code point is lowered as a letter on its own, or else both its lower case
and the code point itself are outside ASCII. -/
theorem lowerAt_cases (seen : Text) (c : CodePoint) (rest : Text) :
    lowerAt seen c rest = [(plainLetter c).map Char.toLower] ∨
      ((∃ d ∈ lowerAt seen c rest, 0x80 ≤ d.toNat) ∧
        0x80 ≤ ((plainLetter c).map Char.toLower).toNat) := by
  by_cases hk : c = kelvin
  · subst hk
    exact .inl ((lowerAt_of_ne (by decide) seen rest).trans lowerPoint_kelvin)
  by_cases hc : c.toNat < 0x80
  · have hs : c ≠ capitalSigma := by
      rintro rfl
      exact absurd hc (by decide)
    left
    rw [lowerAt_of_ne hs, plainLetter_of_ne hk, lowerPoint_of_ascii hc]
  · right
    rw [Nat.not_lt] at hc
    refine ⟨?_, by rwa [plainLetter_of_ne hk, CodePoint.map_toLower_of_le hc]⟩
    unfold lowerAt
    split
    · exact ⟨finalSigma, List.mem_singleton_self _, by decide⟩
    · exact exists_mem_lowerPoint hc hk

theorem lowerFrom_eq_iff {t word : Text} (h : ∀ c ∈ word, c.toNat < 0x80) (seen : Text) :
    lowerFrom seen t = word ↔ (t.map plainLetter).map (CodePoint.map Char.toLower) = word := by
  induction t generalizing seen word with
  | nil => rfl
  | cons c rest ih =>
    rw [lowerFrom, List.map_cons, List.map_cons]
    rcases lowerAt_cases seen c rest with he | ⟨⟨d, hd, hfar⟩, hout⟩
    · rw [he, List.singleton_append]
      cases word with
      | nil => simp
      | cons first others =>
        have hothers := ih (fun e hm => h e (List.mem_cons_of_mem first hm)) (c :: seen)
        rw [List.cons_eq_cons, List.cons_eq_cons, hothers]
    · -- neither side is an ASCII text
      refine iff_of_false ?_ ?_
      · rintro rfl
        exact absurd (h d (List.mem_append_left _ hd)) (Nat.not_lt.2 hfar)
      · rintro rfl
        exact absurd (h _ List.mem_cons_self) (Nat.not_lt.2 hout)

/-- A text is lowered to an ASCII text exactly if it is so letter by letter. -/
theorem lower_eq_iff {t word : Text} (h : ∀ c ∈ word, c.toNat < 0x80) :
    lower t = word ↔ (t.map plainLetter).map (CodePoint.map Char.toLower) = word :=
  lowerFrom_eq_iff h []

end Text
end OneTimeCode
