import OneTimeCode.Text.Basic

/-!
# Base64

Three bytes are four characters of six bits each; one or two bytes at the end are filled up with
the padding character.
-/
namespace OneTimeCode.Base64

/-- The character of a six bit value. -/
def digit (n : Nat) : CodePoint :=
  if n < 26 then .ofNat (0x41 + n)
  else if n < 52 then .ofNat (0x61 + (n - 26))
  else if n < 62 then .ofNat (0x30 + (n - 52))
  else if n = 62 then '+'
  else '/'

def value? (c : CodePoint) : Option Nat :=
  let n := c.toNat
  if 0x41 ≤ n && n ≤ 0x5A then some (n - 0x41)
  else if 0x61 ≤ n && n ≤ 0x7A then some (n - 0x61 + 26)
  else if 0x30 ≤ n && n ≤ 0x39 then some (n - 0x30 + 52)
  else if c = '+' then some 62
  else if c = '/' then some 63
  else none

def encode : List Nat → Text
  | [] => []
  | [a] => [digit (a / 4), digit (a % 4 * 16), '=', '=']
  | [a, b] => [digit (a / 4), digit (a % 4 * 16 + b / 16), digit (b % 16 * 4), '=']
  | a :: b :: c :: rest =>
    digit (a / 4) :: digit (a % 4 * 16 + b / 16) :: digit (b % 16 * 4 + c / 64) :: digit (c % 64)
      :: encode rest

def decode? : Text → Option (List Nat)
  | [] => some []
  | [p, q, .char '=', .char '='] => do
    let p ← value? p
    let q ← value? q
    pure [p * 4 + q / 16]
  | [p, q, r, .char '='] => do
    let p ← value? p
    let q ← value? q
    let r ← value? r
    pure [p * 4 + q / 16, q % 16 * 16 + r / 4]
  | p :: q :: r :: s :: rest => do
    let p ← value? p
    let q ← value? q
    let r ← value? r
    let s ← value? s
    let others ← decode? rest
    pure ((p * 4 + q / 16) :: (q % 16 * 16 + r / 4) :: (r % 4 * 64 + s) :: others)
  | _ => none

theorem value?_digit {n : Nat} (h : n < 64) : value? (digit n) = some n :=
  (by decide : ∀ k : Fin 64, value? (digit k) = some k.val) ⟨n, h⟩

end OneTimeCode.Base64
