import OneTimeCode.Number.Integer

/-!
# UTF-8

A character is one to four bytes, a byte a natural number below 256. Decoding accepts a character
in its shortest form only, so every text of characters has one encoding and every encoding one text.
A text that holds a half has none.
-/
namespace OneTimeCode

/-- The halves that first stand in the way of encoding a text, and how much of it precedes them. -/
structure Unencodable where
  position : Nat
  halves : Text
deriving DecidableEq

namespace Unencodable
open Text Integer

/-- Where the halves stand; one alone is shown. -/
def place (fault : Unencodable) : Text :=
  match fault.halves with
  | [c] => "character '" ++ numericEscape c.toNat ++ "' in position " ++ natText fault.position
  | halves =>
    "characters in position " ++ natText fault.position ++ "-"
      ++ natText (fault.position + halves.length - 1)

def message (fault : Unencodable) : Text :=
  "'utf-8' codec can't encode " ++ fault.place ++ ": surrogates not allowed"

end Unencodable

namespace Utf8

def continuation (n : Nat) : Nat := 0x80 + n % 64

/-- The bytes of a code point; a half gets the three that its number would have. -/
def encodePoint (c : CodePoint) : List Nat :=
  let n := c.toNat
  if n < 0x80 then [n]
  else if n < 0x800 then [0xC0 + n / 64, continuation n]
  else if n < 0x10000 then [0xE0 + n / 4096, continuation (n / 64), continuation n]
  else [0xF0 + n / 262144, continuation (n / 4096), continuation (n / 64), continuation n]

/-- The first of the halves that are obstacles, with the halves right behind it. -/
def firstObstacle? (isObstacle : CodePoint → Bool) (t : Text) : Option Unencodable :=
  match t.dropWhile (!isObstacle ·) with
  | [] => none
  | rest => some ⟨(t.takeWhile (!isObstacle ·)).length, rest.takeWhile (·.isHalf)⟩

/-- What keeps a text from being encoded. -/
def obstacle? (t : Text) : Option Unencodable := firstObstacle? CodePoint.isHalf t

def encode (t : Text) : Except Unencodable (List Nat) :=
  match obstacle? t with
  | some fault => .error fault
  | none => .ok (t.flatMap encodePoint)

/-- Decodes while `owed` continuation bytes of a character from `least` on are outstanding, the
part of it that was read being `value`. -/
def decodeFrom (owed value least : Nat) : List Nat → Option Text
  | [] => if owed = 0 then some [] else none
  | b :: rest =>
    if owed = 0 then
      if b < 0x80 then (decodeFrom 0 0 0 rest).map (Char.ofNat b :: ·)
      else if b < 0xC0 then none
      else if b < 0xE0 then decodeFrom 1 (b - 0xC0) 0x80 rest
      else if b < 0xF0 then decodeFrom 2 (b - 0xE0) 0x800 rest
      else if b < 0xF8 then decodeFrom 3 (b - 0xF0) 0x10000 rest
      else none
    else if 0x80 ≤ b && b < 0xC0 then
      let value := value * 64 + (b - 0x80)
      if owed = 1 then
        if least ≤ value ∧ value.isValidChar then
          (decodeFrom 0 0 0 rest).map (Char.ofNat value :: ·)
        else none
      else decodeFrom (owed - 1) value least rest
    else none

def decode? (bytes : List Nat) : Option Text := decodeFrom 0 0 0 bytes

theorem toNat_lt (c : CodePoint) : c.toNat < 0x110000 := by
  cases c with
  | char c =>
    rcases c.valid with h | h
    · exact Nat.lt_trans h (by decide)
    · exact h.2
  | half offset =>
    have := offset.isLt
    simp only [CodePoint.toNat, CodePoint.firstHalf]
    omega

theorem encodePoint_lt (c : CodePoint) : ∀ b ∈ encodePoint c, b < 256 := by
  have hv := toNat_lt c
  intro b hb
  simp only [encodePoint, continuation] at hb
  split at hb
  · simp at hb; omega
  · split at hb
    · simp at hb; omega
    · split at hb <;> · simp at hb; omega

/-- Only halves stand in the way. -/
theorem obstacle?_eq_none_iff {t : Text} : obstacle? t = none ↔ ∀ c ∈ t, c.isHalf = false := by
  have hd : t.dropWhile (!·.isHalf) = [] ↔ ∀ c ∈ t, c.isHalf = false := by
    induction t with
    | nil => simp
    | cons c rest ih => cases h : c.isHalf <;> simp [h, ih]
  rw [← hd]
  unfold obstacle? firstObstacle?
  split
  · next h => simp [h]
  · next h => simpa using h

theorem encode_lt {t : Text} {bytes : List Nat} (h : encode t = .ok bytes) :
    ∀ b ∈ bytes, b < 256 := by
  unfold encode at h
  split at h
  · simp at h
  · cases h
    intro b hb
    obtain ⟨c, _, hc⟩ := List.mem_flatMap.1 hb
    exact encodePoint_lt c b hc

end Utf8
end OneTimeCode
