import OneTimeCode.Text.Blank
import OneTimeCode.Text.Case

/-!
# Platform of a client

A client names itself as `Signal-`, its platform, a slash and a version, then a space and whatever
it likes on the same line. The platform in lower case is the label under which the client is
counted. Letters are compared without regard to case, and the letters whose case partner lies
outside ASCII are equal to that partner.
-/
namespace OneTimeCode.Platform
open Text

/-- The label of a client that does not name its platform. -/
def unrecognized : Text := "unrecognized"

/-- The case partners of an ASCII letter outside ASCII. -/
def foreignPartners : CodePoint → List Nat
  | .char 'i' => [0x130, 0x131]
  | .char 's' => [0x17F]
  | .char 'k' => [0x212A]
  | _ => []

/-- Whether `c` is the lower case letter or mark `letter` in some case. -/
def isCaseOf (letter c : CodePoint) : Bool :=
  c.map Char.toLower = letter || (foreignPartners letter).contains c.toNat

/-- Splits a word in any case off the front. -/
def splitWord? : (word t : Text) → Option (Text × Text)
  | [], t => some ([], t)
  | _ :: _, [] => none
  | letter :: word, c :: rest =>
    if isCaseOf letter c then (splitWord? word rest).map fun found => (c :: found.1, found.2)
    else none

def names : List Text := ["android", "ios", "desktop"]

/-- A version without spaces, and after a space no further line. -/
def isVersionAndRest (t : Text) : Bool :=
  !(before ' ' t).isEmpty && !(after ' ' t).contains '\n'

/-- The platform as the client spells it. -/
def named? (agent : Text) : Option Text := do
  let (_, rest) ← splitWord? "signal-" agent
  names.findSome? fun name =>
    match splitWord? name rest with
    | some (spelling, .char '/' :: version) =>
      if isVersionAndRest version then some spelling else none
    | _ => none

/-- The label of a client that gives `agent` as its name, or no name at all. -/
def label (agent : Option Text) : Text :=
  match agent.bind fun t => named? (trim t) with
  | some spelling => lower spelling
  | none => unrecognized

end OneTimeCode.Platform
