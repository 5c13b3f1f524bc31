import OneTimeCode.Json.Basic
import OneTimeCode.Number.Decimal

/-!
# Tokens of JSON text

The tokens of a JSON text are its punctuation marks and its scalars. Beside the scalars of the
standard there are `NaN`, `Infinity` and `-Infinity`. A number without fraction and exponent is a
whole number and has at most `Integer.digitLimit` digits; any other is the nearest binary64 number,
infinite if there is none. Control characters below U+0020 are refused inside texts. An escape names
a 16-bit unit; the escapes of both halves of a pair, one behind the other, stand for one character.
-/
namespace OneTimeCode.Json
open Text

inductive Token where
  | openList | closeList | openObject | closeObject | comma | colon
  | scalar (value : Json)

def isSpace (c : CodePoint) : Bool := c = ' ' || c = '\t' || c = '\n' || c = '\r'

def asciiDigit? (c : CodePoint) : Option Nat :=
  if c.satisfies Char.isDigit then some (c.toNat - 48) else none

/-- The digits in front of a text and what follows them. -/
def takeDigits : Text → List Nat × Text
  | [] => ([], [])
  | c :: rest =>
    match asciiDigit? c with
    | some d => let (ds, others) := takeDigits rest; (d :: ds, others)
    | none => ([], c :: rest)

/-- The whole part of a number: a zero alone, or digits that start with no zero. -/
def takeWhole? (t : Text) : Option (List Nat × Text) :=
  match takeDigits t with
  | ([], _) => none
  | (0 :: _, _) => some ([0], t.drop 1)
  | (digits, rest) => some (digits, rest)

def takeFraction : Text → List Nat × Text
  | .char '.' :: rest =>
    match takeDigits rest with
    | ([], _) => ([], '.' :: rest)
    | found => found
  | rest => ([], rest)

def takeExponent (t : Text) : Option Int × Text :=
  match t with
  | c :: rest =>
    if Binary64.isExponentMark c then
      let (negative, body) := Integer.splitSign rest
      match takeDigits body with
      | ([], _) => (none, t)
      | (digits, others) => (some (Integer.signed negative (Integer.ofDigits digits)), others)
    else (none, t)
  | [] => (none, t)

/-- The number in front of a text and what follows it. -/
def takeNumber? (negative : Bool) (t : Text) : Option (Json × Text) := do
  let (whole, afterWhole) ← takeWhole? t
  let (fraction, afterFraction) := takeFraction afterWhole
  let (exponent, rest) := takeExponent afterFraction
  if fraction.isEmpty && exponent.isNone then
    if Integer.digitLimit < whole.length then none
    else some (.int (Integer.signed negative (Integer.ofDigits whole)), rest)
  else
    let places := exponent.getD 0 - fraction.length
    some (.float (Binary64.ofDigits negative (whole ++ fraction) places), rest)

/-- The four hexadecimal digits of an escape. -/
def unit? : Text → Option (Nat × Text)
  | a :: b :: c :: d :: rest => do
    let a ← hexValue? a
    let b ← hexValue? b
    let c ← hexValue? c
    let d ← hexValue? d
    pure (((a * 16 + b) * 16 + c) * 16 + d, rest)
  | _ => none

def isHighUnit (n : Nat) : Bool := 0xD800 ≤ n && n < 0xDC00

def isLowUnit (n : Nat) : Bool := 0xDC00 ≤ n && n < 0xE000

/-- The low half that an escape in front of a text names, and what follows it. -/
def lowUnit? : Text → Option (Nat × Text)
  | .char '\\' :: .char 'u' :: more => (unit? more).filter fun found => isLowUnit found.1
  | _ => none

/-- The code point of an escape by units, the first unit already read. -/
def unitPoint (first : Nat) (rest : Text) : CodePoint × Text :=
  match if isHighUnit first then lowUnit? rest else none with
  | some (low, others) =>
    (.ofNat (0x10000 + (first - 0xD800) * 0x400 + (low - 0xDC00)), others)
  | none => (.ofNat first, rest)

/-- The letters of the escapes of two characters, each with what it stands for. -/
def shortEscapes : List (CodePoint × CodePoint) :=
  [('"', '"'), ('\\', '\\'), ('/', '/'), ('b', .ofNat 8), ('f', .ofNat 12), ('n', '\n'),
    ('r', '\r'), ('t', '\t')]

def shortEscape? (c : CodePoint) : Option CodePoint :=
  (shortEscapes.find? (·.1 = c)).map (·.2)

/-- The rest of a text up to its closing quote, and what follows; `fuel` bounds the steps. -/
def takeString (fuel : Nat) (found t : Text) : Option (Text × Text) :=
  match fuel, t with
  | 0, _ => none
  | _ + 1, [] => none
  | _ + 1, .char '"' :: rest => some (found.reverse, rest)
  | fuel + 1, .char '\\' :: .char 'u' :: rest =>
    match unit? rest with
    | none => none
    | some (n, others) =>
      let (point, others) := unitPoint n others
      takeString fuel (point :: found) others
  | fuel + 1, .char '\\' :: c :: rest =>
    match shortEscape? c with
    | none => none
    | some e => takeString fuel (e :: found) rest
  | fuel + 1, c :: rest =>
    if c = '\\' || c.toNat < 0x20 then none else takeString fuel (c :: found) rest

/-- The word in front of a text, if it stands there. -/
def takeWord? (word : Text) (t : Text) : Option Text :=
  if word.isPrefixOf t then some (t.drop word.length) else none

def words : List (Text × Json) :=
  [("null", .null), ("true", .bool true), ("false", .bool false), ("NaN", .float .nan),
    ("Infinity", .float (.infinity false)), ("-Infinity", .float (.infinity true))]

def takeScalar? (t : Text) : Option (Json × Text) :=
  match words.findSome? fun w => (takeWord? w.1 t).map (w.2, ·) with
  | some found => some found
  | none =>
    match t with
    | .char '"' :: rest => (takeString t.length [] rest).map fun found => (.text found.1, found.2)
    | .char '-' :: rest => takeNumber? true rest
    | _ => takeNumber? false t

def mark? : CodePoint → Option Token
  | .char '[' => some .openList
  | .char ']' => some .closeList
  | .char '\x7b' => some .openObject
  | .char '\x7d' => some .closeObject
  | .char ',' => some .comma
  | .char ':' => some .colon
  | _ => none

/-- The tokens of a text in reverse order; `fuel` bounds the steps. -/
def tokensFrom (fuel : Nat) (found : List Token) (t : Text) : Option (List Token) :=
  match fuel, t with
  | _, [] => some found
  | 0, _ => none
  | fuel + 1, c :: rest =>
    if isSpace c then tokensFrom fuel found rest
    else match mark? c with
      | some mark => tokensFrom fuel (mark :: found) rest
      | none =>
        match takeScalar? (c :: rest) with
        | none => none
        | some (value, others) => tokensFrom fuel (.scalar value :: found) others

/-- The tokens of a text. Every step consumes a character, so its length bounds the steps. -/
def tokens? (t : Text) : Option (List Token) :=
  (tokensFrom t.length [] t).map List.reverse

end OneTimeCode.Json
