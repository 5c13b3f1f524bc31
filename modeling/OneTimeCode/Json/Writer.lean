import OneTimeCode.Json.Basic

/-!
# Writing JSON

Values are written without spaces and in ASCII. Inside texts the double quote and the backslash are
escaped, and every code point that is no printable ASCII character is written by its UTF-16 units.
-/
namespace OneTimeCode.Json
open Text

/-- The UTF-16 units of a code point. -/
def units (n : Nat) : List Nat :=
  if n < 0x10000 then [n]
  else [0xD800 + (n - 0x10000) / 0x400, 0xDC00 + (n - 0x10000) % 0x400]

def unitEscape (unit : Nat) : Text := '\\' :: 'u' :: hex 4 unit

def escaped (c : CodePoint) : Text :=
  if c = '"' || c = '\\' then ['\\', c]
  else if 0x20 ≤ c.toNat && c.toNat < 0x7F then [c]
  else (units c.toNat).flatMap unitEscape

def writeText (t : Text) : Text := "\"" ++ t.flatMap escaped ++ "\""

mutual

def write : Json → Text
  | .null => "null"
  | .bool true => "true"
  | .bool false => "false"
  | .int n => Integer.text n
  | .float x => x.text
  | .text t => writeText t
  | .list items => "[" ++ join "," (writeItems items) ++ "]"
  | .object members => "\x7b" ++ join "," (writeMembers members) ++ "\x7d"

def writeItems : List Json → List Text
  | [] => []
  | item :: rest => write item :: writeItems rest

def writeMembers : List (Text × Json) → List Text
  | [] => []
  | (name, value) :: rest => (writeText name ++ ":" ++ write value) :: writeMembers rest

end

end OneTimeCode.Json
