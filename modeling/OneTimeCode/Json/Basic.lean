import OneTimeCode.Named
import OneTimeCode.Number.Shortest

/-!
# JSON values

The values of JSON with whole numbers of any size, binary64 numbers and the members of an object in
order of their first appearance, and how such values are shown in messages: `literal` quotes every
text, `display` does so only inside lists and objects.
-/
namespace OneTimeCode

inductive Json where
  | null
  | bool (value : Bool)
  | int (value : Int)
  | float (value : Binary64)
  | text (t : Text)
  | list (items : List Json)
  | object (members : List (Text × Json))
deriving Inhabited

namespace Json
open Text

mutual

def literal : Json → Text
  | .null => "None"
  | .bool true => "True"
  | .bool false => "False"
  | .int n => Integer.text n
  | .float x => x.text
  | .text t => quoted t
  | .list items => "[" ++ join ", " (literals items) ++ "]"
  | .object members => "\x7b" ++ join ", " (memberLiterals members) ++ "\x7d"

def literals : List Json → List Text
  | [] => []
  | item :: rest => literal item :: literals rest

def memberLiterals : List (Text × Json) → List Text
  | [] => []
  | (name, value) :: rest => (quoted name ++ ": " ++ literal value) :: memberLiterals rest

end

/-- The text of a value that is one. -/
def text? : Json → Option Text
  | .text t => some t
  | _ => none

def display (value : Json) : Text := value.text?.getD value.literal

/-- Null, false, zero and what is empty count as missing. -/
def isMissing : Json → Bool
  | .null => true
  | .bool value => !value
  | .int n => n == 0
  | .float x => x.isZero
  | .text t => t.isEmpty
  | .list items => items.isEmpty
  | .object members => members.isEmpty

/-- The value as a text, nothing if it counts as missing. -/
def textOrEmpty (value : Json) : Text :=
  if value.isMissing then [] else display value

def member? (name : Text) : Json → Option Json
  | .object members => Named.get? name members
  | _ => none

@[simp] theorem text?_text (t : Text) : text? (text t) = some t := rfl

@[simp] theorem display_text (t : Text) : display (text t) = t := rfl

@[simp] theorem isMissing_text (t : Text) : isMissing (text t) = t.isEmpty := rfl

@[simp] theorem textOrEmpty_text (t : Text) : textOrEmpty (text t) = t := by
  cases t <;> rfl

@[simp] theorem member?_object (name : Text) (members : List (Text × Json)) :
    member? name (object members) = Named.get? name members := rfl

end Json
end OneTimeCode
