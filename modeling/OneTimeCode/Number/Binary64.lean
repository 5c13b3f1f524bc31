/-!
# Binary64 numbers

Every finite binary64 number is a whole count of steps of 2⁻¹⁰⁷⁴, so the numbers are kept as such
counts and all arithmetic on them is exact arithmetic on natural numbers. Rounding goes to the
nearest number of 53 significant bits, and a tie to the even one.
-/
namespace OneTimeCode

inductive Binary64 where
  | nan
  | infinity (negative : Bool)
  | finite (negative : Bool) (steps : Nat)
deriving DecidableEq, Repr, Inhabited

namespace Binary64

/-- The number one, in steps. -/
def stepsPerUnit : Nat := Nat.pow 2 1074

/-- The first count of steps beyond the finite numbers. -/
def stepLimit : Nat := Nat.pow 2 2098

def precision : Nat := 53

/-- The quotient to the nearest whole number, a half to the even one. -/
def roundHalfEven (num den : Nat) : Nat :=
  let q := num / den
  let twice := 2 * (num % den)
  if twice < den then q else if den < twice then q + 1 else q + q % 2

/-- The distance between neighbouring numbers from `steps` on. -/
def spacing (steps : Nat) : Nat := Nat.pow 2 (steps.log2 + 1 - precision)

/-- The number nearest to `num / den`. -/
def ofRatio (negative : Bool) (num den : Nat) : Binary64 :=
  let total := num * stepsPerUnit
  let gap := spacing (total / den)
  let steps := roundHalfEven total (den * gap) * gap
  if steps < stepLimit then .finite negative steps else .infinity negative

/-- The number nearest to `digits * 10 ^ exponent`. -/
def ofDecimal (negative : Bool) (digits : Nat) (exponent : Int) : Binary64 :=
  if 0 ≤ exponent then ofRatio negative (digits * Nat.pow 10 exponent.toNat) 1
  else ofRatio negative digits (Nat.pow 10 (-exponent).toNat)

/-- A whole number, if it is within the finite numbers. -/
def ofInt? (n : Int) : Option Binary64 :=
  match ofRatio (n < 0) n.natAbs 1 with
  | .infinity _ => none
  | x => some x

def zero : Binary64 := .finite false 0

def one : Binary64 := .finite false stepsPerUnit

def isZero : Binary64 → Bool
  | .finite _ steps => steps == 0
  | _ => false

/-- Whether the number is below zero; a zero with a sign is not. -/
def isNegative : Binary64 → Bool
  | .nan => false
  | .infinity negative => negative
  | .finite negative steps => negative && steps != 0

/-- Whether the number lies between zero and one, both included; a zero may have a sign. -/
def inUnitInterval : Binary64 → Bool
  | .finite negative steps => steps == 0 || (!negative && decide (steps ≤ stepsPerUnit))
  | _ => false

/-- The count of steps of a number without its sign; zero for what is not finite. -/
def magnitude : Binary64 → Nat
  | .finite _ steps => steps
  | _ => 0

end Binary64
end OneTimeCode
