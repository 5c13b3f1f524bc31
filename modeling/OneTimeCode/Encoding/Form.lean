import OneTimeCode.Encoding.Percent
import OneTimeCode.Named

/-!
# Form data

A list of fields as `name=value` pairs joined by `&`. Names and values are percent-encoded, with a
plus for the space.
-/
namespace OneTimeCode.Form
open Text

abbrev Fields := Named Text

def encodeByte (b : Nat) : Text := if b = 0x20 then ['+'] else Percent.encodeByte b

def component (t : Text) : Except Unencodable Text :=
  (Utf8.encode t).map (·.flatMap encodeByte)

def encodeField (field : Text × Text) : Except Unencodable Text := do
  let name ← component field.1
  let value ← component field.2
  pure (name ++ "=" ++ value)

/-- The form of the fields, unless a name or value cannot be encoded; the first such counts. -/
def encode (fields : Fields) : Except Unencodable Text :=
  (fields.mapM encodeField).map (join "&")

def decodeComponent? (t : Text) : Option Text :=
  Percent.decode? (t.flatMap fun (c : CodePoint) => if c = '+' then "%20" else [c])

def decodeField? (t : Text) : Option (Text × Text) := do
  let name ← decodeComponent? (before '=' t)
  let value ← decodeComponent? (after '=' t)
  pure (name, value)

/-- The fields that a form body lists, in its order. -/
def decode? (t : Text) : Option Fields :=
  if t.isEmpty then some [] else (pieces '&' t).mapM decodeField?

end OneTimeCode.Form
