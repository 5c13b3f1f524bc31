import OneTimeCode.Json.Kind

/-!
# Counters

A registry holds one counter for each name and set of tags that was ever incremented, ordered by
name and then by the sorted tags. Counts are sums over all counters of a name that carry the tags
asked for; two names of tags are reserved and cannot be asked for.
-/
namespace OneTimeCode
open Text

abbrev Tag := Text × Text

namespace Tag

def precedes (a b : Tag) : Bool :=
  Text.precedes a.1 b.1 || (a.1 = b.1 && Text.precedes a.2 b.2)

/-- Tag by tag, a list after each of its own beginnings. -/
def listPrecedes : List Tag → List Tag → Bool
  | _, [] => false
  | [], _ :: _ => true
  | a :: as, b :: bs => precedes a b || (a = b && listPrecedes as bs)

end Tag

structure CounterKey where
  name : Text
  tags : List Tag
deriving DecidableEq

namespace CounterKey

/-- The key of a name with tags in any order; every value counts as its text. -/
def of (name : Text) (tags : Named Json) : CounterKey :=
  let texts := (Named.ofList tags).map fun tag => (tag.1, tag.2.display)
  ⟨name, texts.mergeSort fun a b => !Tag.precedes b a⟩

def precedes (a b : CounterKey) : Bool :=
  Text.precedes a.name b.name || (a.name = b.name && Tag.listPrecedes a.tags b.tags)

/-- Whether the key carries the tags asked for; a value that is no text is carried by none. -/
def carries (key : CounterKey) (wanted : Named Json) : Bool :=
  (Named.ofList wanted).all fun tag =>
    match tag.2.text? with
    | some value => key.tags.contains (tag.1, value)
    | none => false

end CounterKey

/-- Counters by ascending key. -/
structure Counters where
  entries : List (CounterKey × Int)

namespace Counters

def empty : Counters := ⟨[]⟩

def addTo (key : CounterKey) (amount : Int) : List (CounterKey × Int) → List (CounterKey × Int)
  | [] => [(key, amount)]
  | entry :: rest =>
    if entry.1 = key then (key, entry.2 + amount) :: rest
    else if key.precedes entry.1 then (key, amount) :: entry :: rest
    else entry :: addTo key amount rest

def add (counters : Counters) (key : CounterKey) (amount : Int) : Counters :=
  ⟨addTo key amount counters.entries⟩

def increment (counters : Counters) (name : Text) (tags : Named Json) (amount : Int) : Counters :=
  counters.add (CounterKey.of name tags) amount

/-- The sum of all counters of a name that carry the wanted tags. -/
def count (counters : Counters) (name : Text) (wanted : Named Json) : Int :=
  (counters.entries.filter fun e => e.1.name = name && e.1.carries wanted).foldr
    (fun e total => e.2 + total) 0

/-- The names of tags that cannot be asked for. -/
def reservedNames : List Text := ["name", "self"]

/-- Whether counters can be asked for a tag. -/
def isAskable (tag : Text × Json) : Bool :=
  !reservedNames.contains tag.1 && tag.2.scalar?.isSome

/-- The count for tags as given by a caller. -/
def countGiven (counters : Counters) (name : Text) (wanted : Named Json) : Except Mismatch Int :=
  if (Named.ofList wanted).all isAskable then .ok (counters.count name wanted)
  else .error .otherKind

end Counters
end OneTimeCode
