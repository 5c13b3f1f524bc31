import OneTimeCode.Encoding.Utf8

/-!
# Escaped bytes

A way to keep any bytes as a text: what is UTF-8 is decoded, and every byte that is part of no
character becomes the half as far behind U+DC00 as the byte is above zero. Only these halves can be
written as bytes again. A text may come back changed: halves whose bytes happen to be UTF-8 come
back as characters.
-/
namespace OneTimeCode.Escape

/-- The half behind which the escaped bytes stand. -/
def base : Nat := 0xDC00

/-- The byte that a half stands for. -/
def byte? (c : CodePoint) : Option Nat :=
  if base + 0x80 ≤ c.toNat && c.toNat < base + 0x100 then some (c.toNat - base) else none

def isObstacle (c : CodePoint) : Bool := c.isHalf && (byte? c).isNone

def encodePoint (c : CodePoint) : List Nat :=
  match byte? c with
  | some b => [b]
  | none => Utf8.encodePoint c

def encode (t : Text) : Except Unencodable (List Nat) :=
  match Utf8.firstObstacle? isObstacle t with
  | some fault => .error fault
  | none => .ok (t.flatMap encodePoint)

/-- The most bytes of a character. -/
def characterLimit : Nat := 4

/-- The character in front of the bytes, and how many bytes behind its first one belong to it. -/
def character? (bytes : List Nat) : Option (CodePoint × Nat) :=
  (List.range characterLimit).findSome? fun more =>
    match Utf8.decode? (bytes.take (more + 1)) with
    | some [c] => some (c, more)
    | _ => none

def decode : List Nat → Text
  | [] => []
  | b :: rest =>
    match character? (b :: rest) with
    | some (c, more) => c :: decode (rest.drop more)
    | none => .ofNat (base + b) :: decode rest
termination_by bytes => bytes.length
decreasing_by all_goals simp [List.length_drop]; try omega

end OneTimeCode.Escape
