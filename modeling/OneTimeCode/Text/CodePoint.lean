/-!
# Code points

A text is made of code points. Most of them are characters; the others are the 16-bit units from
U+D800 to U+DFFF, halves that stand for a character in pairs only. A half without its partner is
kept, compared and quoted like any other code point, but no encoding has a form for it.
-/
namespace OneTimeCode

inductive CodePoint where
  | char (c : Char)
  /-- The half at this offset behind U+D800. -/
  | half (offset : Fin 0x800)
deriving DecidableEq, Repr

instance : Coe Char CodePoint := ⟨.char⟩

namespace CodePoint

instance : Inhabited CodePoint := ⟨' '⟩

def firstHalf : Nat := 0xD800

def ofNat (n : Nat) : CodePoint :=
  if h : n - firstHalf < 0x800 ∧ firstHalf ≤ n then .half ⟨n - firstHalf, h.1⟩
  else .char (Char.ofNat n)

def toNat : CodePoint → Nat
  | char c => c.toNat
  | half offset => firstHalf + offset

instance : LT CodePoint := ⟨fun a b => a.toNat < b.toNat⟩

instance (a b : CodePoint) : Decidable (a < b) := inferInstanceAs (Decidable (a.toNat < b.toNat))

def isHalf : CodePoint → Bool
  | char _ => false
  | half _ => true

/-- Whether the code point is a character for which `p` holds. -/
def satisfies (p : Char → Bool) : CodePoint → Bool
  | char c => p c
  | half _ => false

/-- Changes a character and leaves a half as it is. -/
def map (f : Char → Char) : CodePoint → CodePoint
  | char c => f c
  | half offset => half offset

/-- What is shown for a half where only characters can be written. -/
def replacement : Char := Char.ofNat 0xFFFD

def shown : CodePoint → Char
  | char c => c
  | half _ => replacement

@[simp] theorem toNat_char (c : Char) : (char c).toNat = c.toNat := rfl

theorem toNat_ofNat {n : Nat} (h : n < 0x110000) : (ofNat n).toNat = n := by
  unfold ofNat
  split
  · next k =>
    simp only [toNat]
    omega
  · next k =>
    have hv : n.isValidChar := by
      simp only [Nat.isValidChar, firstHalf] at k ⊢
      omega
    show (Char.ofNat n).toNat = n
    rw [Char.ofNat, dif_pos hv]
    rfl

theorem char_toNat_ne_half (c : Char) (offset : Fin 0x800) :
    (char c).toNat ≠ (half offset).toNat := by
  have hv := c.valid
  have ho := offset.isLt
  simp only [toNat, firstHalf, UInt32.isValidChar, Nat.isValidChar, Char.toNat] at hv ⊢
  omega

theorem toNat_injective {a b : CodePoint} (h : a.toNat = b.toNat) : a = b := by
  cases a with
  | char c =>
    cases b with
    | char d => exact congrArg char (Char.toNat_inj.1 h)
    | half offset => exact absurd h (char_toNat_ne_half c offset)
  | half offset =>
    cases b with
    | char c => exact absurd h.symm (char_toNat_ne_half c offset)
    | half other =>
      simp only [toNat] at h
      exact congrArg half (Fin.ext (by omega))

end CodePoint
end OneTimeCode
