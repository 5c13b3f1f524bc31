import OneTimeCode.Language.Range

/-!
# Preference headers

A header lists language ranges between commas, each with an optional weight of at most three
decimals behind a semicolon. Reading it gives the ranges by descending weight, those of equal
weight in the order of the header.
-/
namespace OneTimeCode.Header
open Text

/-- A weight as a count of thousandths. -/
def weightOfThousandths (n : Nat) : Weight :=
  (Weight.of? (Binary64.ofRatio false n 1000)).getD Weight.full

/-- Up to three decimals as thousandths. -/
def decimals? (t : Text) : Option Nat :=
  if t.length ≤ 3 ∧ t.all (·.satisfies Char.isDigit) then
    some (Integer.ofDigits ((padRight '0' 3 t).map (·.toNat - '0'.toNat)))
  else none

/-- A number from `0` to `1` with up to three decimals, as thousandths. -/
def thousandths? (t : Text) : Option Nat := do
  let fraction ← match t.drop 1 with
    | [] => some 0
    | .char '.' :: decimals => decimals? decimals
    | _ => none
  match t.head? with
  | some (.char '0') => some fraction
  | some (.char '1') => if fraction = 0 then some 1000 else none
  | _ => none

/-- The number behind `q=` or `Q=`. -/
def quality? : Text → Option Nat
  | .char 'q' :: .char '=' :: number => thousandths? number
  | .char 'Q' :: .char '=' :: number => thousandths? number
  | _ => none

def readEntry (entry : Text) : Except RangeError LanguageRange :=
  let tag := trim (before ';' entry)
  let parameter := (after ';' entry).filter fun (c : CodePoint) => c != ' '
  if parameter.isEmpty then LanguageRange.ofText tag Weight.full
  else match quality? parameter with
    | some n => LanguageRange.ofText tag (weightOfThousandths n)
    | none => .error (.malformedWeight entry)

/-- The entries between the commas, trimmed, the blank ones left out. -/
def entries (header : Text) : List Text :=
  ((pieces ',' header).map trim).filter (!·.isEmpty)

/-- The higher weight first; ranges of equal weight keep their order. -/
def byWeight (ranges : List LanguageRange) : List LanguageRange :=
  ranges.mergeSort fun a b => Weight.le b.weight a.weight

def read (header : Text) : Except RangeError (List LanguageRange) := do
  let ranges ← (entries header).mapM readEntry
  pure (byWeight ranges)

end OneTimeCode.Header
