import OneTimeCode.Text.Basic

/-! # Hexadecimal digits -/
namespace OneTimeCode.Text

/-- The lower case digit of `n` below sixteen. -/
def hexDigit (n : Nat) : CodePoint :=
  Char.ofNat (if n < 10 then 0x30 + n else 0x57 + n)

def upperHexDigit (n : Nat) : CodePoint :=
  Char.ofNat (if n < 10 then 0x30 + n else 0x37 + n)

/-- The last `width` hexadecimal digits of `n`. -/
def hex : (width n : Nat) → Text
  | 0, _ => []
  | width + 1, n => hex width (n / 16) ++ [hexDigit (n % 16)]

/-- The value of a hexadecimal digit of either case. -/
def hexValue? (c : CodePoint) : Option Nat :=
  let n := c.toNat
  if 0x30 ≤ n && n ≤ 0x39 then some (n - 0x30)
  else if 0x61 ≤ n && n ≤ 0x66 then some (n - 0x57)
  else if 0x41 ≤ n && n ≤ 0x46 then some (n - 0x37)
  else none

theorem hexValue?_upperHexDigit {n : Nat} (h : n < 16) : hexValue? (upperHexDigit n) = some n :=
  (by decide : ∀ k : Fin 16, hexValue? (upperHexDigit k) = some k.val) ⟨n, h⟩

end OneTimeCode.Text
