import OneTimeCode.Json.Kind
import OneTimeCode.Number.Decimal
import OneTimeCode.Text.Case

/-!
# Language ranges

A language range is a list of subtags in lower case, each a word or the wildcard, with a weight
from zero to one. The weight one is full preference, a range of weight zero is not acceptable.
-/
namespace OneTimeCode
open Text

/-- A number from zero to one. -/
structure Weight where
  value : Binary64
  inUnitInterval : value.inUnitInterval = true

namespace Weight

def of? (value : Binary64) : Option Weight :=
  if h : value.inUnitInterval = true then some ⟨value, h⟩ else none

def full : Weight := ⟨.one, by simp [Binary64.inUnitInterval, Binary64.one]⟩

def isZero (w : Weight) : Bool := w.value.isZero

/-- Zero comes first, whatever its sign. -/
def le (a b : Weight) : Bool := a.value.magnitude ≤ b.value.magnitude

end Weight

def wildcard : Text := "*"

/-- The most letters or digits of a subtag. -/
def subtagLimit : Nat := 8

/-- The wildcard, or a word of at most `subtagLimit` characters for which `p` holds. -/
def isSubtag (p : Char → Bool) (subtag : Text) : Bool :=
  subtag = wildcard ||
    (!subtag.isEmpty && decide (subtag.length ≤ subtagLimit) && subtag.all (·.satisfies p))

/-- The first subtag has letters only, later ones letters and digits, all in lower case. -/
def areSubtags : List Text → Bool
  | [] => false
  | first :: rest =>
    isSubtag Char.isLower first && rest.all (isSubtag fun c => c.isLower || c.isDigit)

structure LanguageRange where
  subtags : List Text
  weight : Weight
  wellFormed : areSubtags subtags = true

inductive RangeError where
  | malformedRange (given : Json)
  | malformedWeight (entry : Text)
  | weightNotNumeric (given : Text)
  | weightTooLarge
  | weightOutOfRange (range weight : Json)
  | mismatch (reason : Mismatch)

namespace RangeError

def message : RangeError → Text
  | malformedRange given => "Invalid language range: " ++ given.literal
  | malformedWeight entry => "Invalid weight in language range: " ++ quoted entry
  | weightNotNumeric given => "could not convert string to float: " ++ quoted given
  | weightTooLarge => "int too large to convert to float"
  | weightOutOfRange range weight =>
    "Weight out of range for " ++ range.literal ++ ": " ++ weight.display
  | mismatch reason => reason.message

end RangeError

namespace LanguageRange

/-- The subtags of a range as given: trimmed, in lower case, cut at the hyphens. -/
def normalize (given : Text) : List Text := pieces '-' (lower (trim given))

def text (r : LanguageRange) : Text := join "-" r.subtags

def isWildcard (r : LanguageRange) : Bool := r.subtags = [wildcard]

/-- The number that a weight as given stands for. -/
def weightNumber : Json → Except RangeError Binary64
  | .float x => .ok x
  | .bool b => .ok (if b then .one else .zero)
  | .int n =>
    match Binary64.ofInt? n with
    | some x => .ok x
    | none => .error .weightTooLarge
  | .text t =>
    match Binary64.read? t with
    | some x => .ok x
    | none => .error (.weightNotNumeric t)
  | _ => .error (.mismatch .otherKind)

def readWeight (range weight : Json) : Except RangeError Weight := do
  let number ← weightNumber weight
  match Weight.of? number with
  | some w => .ok w
  | none => .error (.weightOutOfRange range weight)

/-- A range with a weight still to be read, which happens after the range was found well-formed. -/
def build (range : Json) (weight : Except RangeError Weight) : Except RangeError LanguageRange :=
  let subtags := normalize range.textOrEmpty
  if h : areSubtags subtags = true then do
    let weight ← weight
    pure ⟨subtags, weight, h⟩
  else .error (.malformedRange range)

/-- A range and a weight as given by a caller. -/
def ofJson (range weight : Json) : Except RangeError LanguageRange :=
  build range (readWeight range weight)

def ofText (range : Text) (weight : Weight) : Except RangeError LanguageRange :=
  build (.text range) (.ok weight)

/-- How a range is shown inside a message. -/
def literal (r : LanguageRange) : Text :=
  "LanguageRange(range=" ++ quoted r.text ++ ", weight=" ++ r.weight.value.text ++ ")"

end LanguageRange
end OneTimeCode
