import OneTimeCode.Number.Binary64
import OneTimeCode.Number.Integer

/-!
# Shortest decimal text of a number

A finite number is written with the fewest digits that read back: on the coarsest decimal grid that
holds a number which rounds to it, the nearest such number, and of two equally near the even one.
Positional notation is used from 10⁻⁴ below 10¹⁶, an exponent of at least two digits elsewhere.
-/
namespace OneTimeCode.Binary64
open Integer

/-- The steps of `10 ^ exponent` as a fraction. -/
def gridUnit (exponent : Int) : Nat × Nat :=
  if 0 ≤ exponent then (stepsPerUnit * Nat.pow 10 exponent.toNat, 1)
  else (stepsPerUnit, Nat.pow 10 (-exponent).toNat)

/-- How often `10 ^ exponent` goes into a number. -/
def gridBelow (steps : Nat) (exponent : Int) : Nat :=
  let unit := gridUnit exponent
  steps * unit.2 / unit.1

def readsBack (steps : Nat) (exponent : Int) (digits : Nat) : Bool :=
  digits != 0 && decide (ofDecimal false digits exponent = .finite false steps)

/-- Of the two neighbours of a number on a grid, the nearer, or the even one at a tie. -/
def nearerOnGrid (steps : Nat) (exponent : Int) : Nat :=
  let unit := gridUnit exponent
  roundHalfEven (steps * unit.2) unit.1

/-- The number of the grid of `10 ^ exponent` that stands for a number, if one reads back. -/
def onGrid? (steps : Nat) (exponent : Int) : Option Nat :=
  let low := gridBelow steps exponent
  match readsBack steps exponent low, readsBack steps exponent (low + 1) with
  | true, true => some (nearerOnGrid steps exponent)
  | true, false => some low
  | false, true => some (low + 1)
  | false, false => none

/-- No shortest text needs a grid as fine as `10 ^ -lowestExponent`. -/
def lowestExponent : Nat := 345

/-- Digits and exponent of the coarsest grid that holds a number which reads back. -/
def shortest? (steps : Nat) : Option (Nat × Int) :=
  let top : Nat := (natText (steps / stepsPerUnit)).length
  (List.range (top + lowestExponent)).findSome? fun (i : Nat) =>
    let exponent := (top : Int) - i
    (onGrid? steps exponent).map (·, exponent)

/-- Numbers are written without exponent if the point comes after this many digits at most. -/
def positionalAbove : Int := 16

/-- Numbers are written without exponent if fewer zeros than this follow the point. -/
def positionalBelow : Int := -4

def exponentText (e : Int) : Text :=
  (if e < 0 then "-" else "+") ++ Text.padLeft '0' 2 (natText e.natAbs)

def zeros (n : Nat) : Text := List.replicate n '0'

/-- A fraction behind its point, nothing if there is none. -/
def pointed (fraction : Text) : Text := if fraction.isEmpty then [] else "." ++ fraction

/-- The number `0.d₁d₂… * 10 ^ point` in digits. -/
def layout (digits : Text) (point : Int) : Text :=
  if positionalBelow < point && point ≤ positionalAbove then
    if point ≤ 0 then "0." ++ zeros (-point).toNat ++ digits
    else if (digits.length : Int) ≤ point then
      digits ++ zeros (point.toNat - digits.length) ++ ".0"
    else digits.take point.toNat ++ "." ++ digits.drop point.toNat
  else
    digits.take 1 ++ pointed (digits.drop 1) ++ "e" ++ exponentText (point - 1)

def magnitudeText (steps : Nat) : Text :=
  if steps = 0 then "0.0" else
  match shortest? steps with
  | none => "0.0"
  | some (digits, exponent) =>
    let shown := natText digits
    layout shown (shown.length + exponent)

def sign (negative : Bool) : Text := if negative then "-" else ""

def text : Binary64 → Text
  | .nan => "nan"
  | .infinity negative => sign negative ++ "inf"
  | .finite negative steps => sign negative ++ magnitudeText steps

end OneTimeCode.Binary64
