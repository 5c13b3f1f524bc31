import OneTimeCode.Json.Basic

/-!
# Kinds of values

Callers hand over JSON values where a text or a number belongs. What a place accepts beyond that,
and what it cannot use at all, is the same wherever such a value is used.
-/
namespace OneTimeCode
open Text

/-- Why a value cannot be used: only a text would do, or values of its kind have no use here. -/
inductive Mismatch where
  | notText
  | otherKind
deriving DecidableEq, Repr

def Mismatch.message : Mismatch → Text
  | notText => "the value is no text"
  | otherKind => "the value is of another kind"

/-- What tells values apart that have no parts: numbers are the same if their values are, and a
truth value is the same as one or zero. -/
inductive Scalar where
  | null
  | number (steps : Int)
  | unlimited (value : Binary64)
  | text (t : Text)
deriving DecidableEq

namespace Json

/-- The text of a value, empty for what counts as missing. -/
def requireText (value : Json) : Except Mismatch Text :=
  if value.isMissing then .ok []
  else match value.text? with
    | some t => .ok t
    | none => .error .notText

/-- A whole number; truth values are one and zero. -/
def whole? : Json → Option Int
  | .int n => some n
  | .bool value => some value.toInt
  | _ => none

def requireWhole (value : Json) : Except Mismatch Int :=
  match value.whole? with
  | some n => .ok n
  | none => .error .otherKind

/-- Whether a number is below zero; not-a-number is not. -/
def isNegative? : Json → Option Bool
  | .int n => some (n < 0)
  | .bool _ => some false
  | .float x => some x.isNegative
  | _ => none

/-- Whether a number is zero or below. -/
def isZeroOrNegative? (value : Json) : Option Bool :=
  value.isNegative?.map (· || value.isMissing)

/-- Whether a number is at least `n`; not-a-number is not. -/
def isAtLeast? (n : Int) : Json → Option Bool
  | .int m => some (n ≤ m)
  | .bool value => some (n ≤ value.toInt)
  | .float .nan => some false
  | .float (.infinity negative) => some !negative
  | .float (.finite negative steps) =>
    some (n * Binary64.stepsPerUnit ≤ Integer.signed negative steps)
  | _ => none

def scalar? : Json → Option Scalar
  | .null => some .null
  | .bool value => some (.number (value.toInt * Binary64.stepsPerUnit))
  | .int n => some (.number (n * Binary64.stepsPerUnit))
  | .float (.finite negative steps) => some (.number (Integer.signed negative steps))
  | .float x => some (.unlimited x)
  | .text t => some (.text t)
  | .list _ | .object _ => none

def requireScalar (value : Json) : Except Mismatch Scalar :=
  match value.scalar? with
  | some scalar => .ok scalar
  | none => .error .otherKind

theorem requireText_text (t : Text) : requireText (text t) = .ok t := by
  cases t <;> simp [requireText]

end Json
end OneTimeCode
