import OneTimeCode.Number.Binary64
import OneTimeCode.Number.Integer

/-!
# Reading decimal numbers

A number is read from decimal digits of any script with an optional sign, point and exponent,
single underscores between digits and blanks around, or from a word for an infinity or for
not-a-number in any case. The value is the nearest binary64 number.
-/
namespace OneTimeCode.Binary64
open Text Integer

/-- Beyond this many places before or after the point the value is infinite or zero. -/
def placeLimit : Int := 400

/-- The number nearest to the digits, the point `exponent` places behind the last of them. -/
def ofDigits (negative : Bool) (digits : List Nat) (exponent : Int) : Binary64 :=
  let significant := digits.dropWhile (· == 0)
  let places := exponent + significant.length
  if significant.isEmpty then .finite negative 0
  else if placeLimit < places then .infinity negative
  else if places < -placeLimit then .finite negative 0
  else ofDecimal negative (Integer.ofDigits significant) exponent

/-- Digits, or nothing at all. -/
def optionalDigits? (t : Text) : Option (List Nat) :=
  if t.isEmpty then some [] else groupedDigits? t

/-- What follows the mark of an exponent. -/
def exponent? (t : Text) : Option Int := do
  let (negative, body) := splitSign t
  let digits ← groupedDigits? body
  pure (signed negative (Integer.ofDigits digits))

def isExponentMark (c : CodePoint) : Bool := c = 'e' || c = 'E'

def decimal? (negative : Bool) (t : Text) : Option Binary64 := do
  let mantissa := t.takeWhile (!isExponentMark ·)
  let exponent ← match t.dropWhile (!isExponentMark ·) with
    | [] => some 0
    | _ :: rest => exponent? rest
  let whole ← optionalDigits? (before '.' mantissa)
  let fraction ← optionalDigits? (after '.' mantissa)
  if whole.isEmpty && fraction.isEmpty then none
  else some (ofDigits negative (whole ++ fraction) (exponent - fraction.length))

def read? (source : Text) : Option Binary64 :=
  let (negative, body) := splitSign (trimBy isNumberBlank source)
  let word := body.map (CodePoint.map Char.toLower)
  if word = "inf" || word = "infinity" then some (.infinity negative)
  else if word = "nan" then some .nan
  else decimal? negative body

/-- The numbers that have no whole part. -/
inductive NoWholePart where
  | infinite | notANumber
deriving DecidableEq, Repr

def NoWholePart.message : NoWholePart → Text
  | infinite => "cannot convert float infinity to integer"
  | notANumber => "cannot convert float NaN to integer"

/-- The whole part of a finite number, the sign kept. -/
def wholePart : Binary64 → Except NoWholePart Int
  | .finite negative steps => .ok (signed negative (steps / stepsPerUnit))
  | .infinity _ => .error .infinite
  | .nan => .error .notANumber

end OneTimeCode.Binary64
