import OneTimeCode.Text.Blank
import OneTimeCode.Text.Digit
import OneTimeCode.Text.Quoted

/-!
# Whole numbers as text

A whole number is read from decimal digits of any script, with an optional sign in front, single
underscores between digits and blanks around; texts of more than `digitLimit` digits are refused.
-/
namespace OneTimeCode.Integer
open Text

def digitLimit : Nat := 4300

inductive ReadError where
  | malformed (source : Text)
  | tooLong (digits : Nat)
deriving DecidableEq, Repr

def natText (n : Nat) : Text := (Nat.toDigits 10 n).map .char

def text : Int → Text
  | .ofNat n => natText n
  | .negSucc n => '-' :: natText (n + 1)

/-- The longest quotation of a malformed text in a message. -/
def quotationLimit : Nat := 200

def ReadError.message : ReadError → Text
  | .malformed source =>
    "invalid literal for int() with base 10: " ++ (quoted source).take quotationLimit
  | .tooLong digits =>
    "Exceeds the limit (" ++ natText digitLimit ++ " digits) for integer string conversion: value has "
      ++ natText digits ++ " digits; use sys.set_int_max_str_digits() to increase the limit"

/-- At least one digit, with single underscores between digits only. -/
def groupedDigits? : Text → Option (List Nat)
  | [] => none
  | [c] => (decimalDigit? c).map ([·])
  | c :: .char '_' :: rest => do
    let d ← decimalDigit? c
    let ds ← groupedDigits? rest
    pure (d :: ds)
  | c :: rest => do
    let d ← decimalDigit? c
    let ds ← groupedDigits? rest
    pure (d :: ds)

def ofDigits (digits : List Nat) : Nat :=
  digits.foldl (fun n d => 10 * n + d) 0

/-- Splits off an optional sign; `true` for a minus. -/
def splitSign : Text → Bool × Text
  | .char '-' :: rest => (true, rest)
  | .char '+' :: rest => (false, rest)
  | rest => (false, rest)

def signed (negative : Bool) (n : Nat) : Int :=
  if negative then -(n : Int) else n

def read (source : Text) : Except ReadError Int :=
  let (negative, body) := splitSign (trimBy isNumberBlank source)
  let run := body.takeWhile fun c => isDecimalDigit c || c = '_'
  match groupedDigits? run with
  | none => .error (.malformed source)
  | some digits =>
    if digitLimit < digits.length then .error (.tooLong digits.length)
    else if run.length < body.length then .error (.malformed source)
    else .ok (signed negative (ofDigits digits))

end OneTimeCode.Integer
