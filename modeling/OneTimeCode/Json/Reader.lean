import OneTimeCode.Json.Token

/-!
# Reading JSON

The tokens of a text are read from left to right, with the lists and objects that are still open on
a stack, at most `nestingLimit` of them. A repeated member name overwrites the earlier value and
keeps its place.
-/
namespace OneTimeCode.Json

/-- A list or object that is still open, its finished parts in reverse order. -/
inductive Frame where
  | list (items : List Json)
  | object (members : List (Text × Json))
  | member (members : List (Text × Json)) (name : Text)

/-- What may come next. -/
inductive Awaiting where
  | value
  | firstItem
  | firstName
  | name
  | colon
  | separator
  | nothing (result : Json)

structure Progress where
  awaiting : Awaiting
  frames : List Frame

/-- A finished value goes into the innermost open list or object. -/
def deliver (value : Json) : List Frame → Option Progress
  | [] => some ⟨.nothing value, []⟩
  | .list items :: frames => some ⟨.separator, .list (value :: items) :: frames⟩
  | .member members name :: frames =>
    some ⟨.separator, .object (Named.put name value members) :: frames⟩
  | .object _ :: _ => none

def close (token : Token) (frames : List Frame) : Option Progress :=
  match token, frames with
  | .closeList, .list items :: frames => deliver (.list items.reverse) frames
  | .closeObject, .object members :: frames => deliver (.object members) frames
  | _, _ => none

/-- The most lists and objects that may be open at once. -/
def nestingLimit : Nat := 985

/-- Opens a list or object, unless too many are open. -/
def openFrame (awaiting : Awaiting) (frame : Frame) (frames : List Frame) : Option Progress :=
  if frames.length < nestingLimit then some ⟨awaiting, frame :: frames⟩ else none

def beginValue (token : Token) (frames : List Frame) : Option Progress :=
  match token with
  | .openList => openFrame .firstItem (.list []) frames
  | .openObject => openFrame .firstName (.object []) frames
  | .scalar value => deliver value frames
  | _ => none

def beginMember (token : Token) (frames : List Frame) : Option Progress :=
  match token, frames with
  | .scalar (.text name), .object members :: frames => some ⟨.colon, .member members name :: frames⟩
  | _, _ => none

def Progress.step (progress : Progress) (token : Token) : Option Progress :=
  let frames := progress.frames
  match progress.awaiting, token with
  | .value, _ => beginValue token frames
  | .firstItem, .closeList => close token frames
  | .firstItem, _ => beginValue token frames
  | .firstName, .closeObject => close token frames
  | .firstName, _ => beginMember token frames
  | .name, _ => beginMember token frames
  | .colon, .colon => some ⟨.value, frames⟩
  | .separator, .comma =>
    match frames with
    | .list _ :: _ => some ⟨.value, frames⟩
    | .object _ :: _ => some ⟨.name, frames⟩
    | _ => none
  | .separator, _ => close token frames
  | _, _ => none

def start : Progress := ⟨.value, []⟩

/-- The value that a text writes. -/
def read? (t : Text) : Option Json := do
  let tokens ← tokens? t
  let last ← tokens.foldlM Progress.step start
  match last.awaiting with
  | .nothing result => some result
  | _ => none

end OneTimeCode.Json
