import OneTimeCode.Encoding.Utf8
import OneTimeCode.Text.Hex

/-!
# Percent-encoding

A text as one segment of a URL: the unreserved characters stand for themselves, every other byte of
its UTF-8 form is written as `%` and two upper case hexadecimal digits.
-/
namespace OneTimeCode.Percent
open Text

/-- ASCII letters, digits and `_`, `.`, `-`, `~`. -/
def isUnreserved (c : Char) : Bool :=
  c.isAlphanum || c == '_' || c == '.' || c == '-' || c == '~'

def escape (b : Nat) : Text := ['%', upperHexDigit (b / 16), upperHexDigit (b % 16)]

def encodeByte (b : Nat) : Text :=
  if b < 0x80 && isUnreserved (Char.ofNat b) then [Char.ofNat b] else escape b

def encode (t : Text) : Except Unencodable Text :=
  (Utf8.encode t).map (·.flatMap encodeByte)

/-- The bytes behind the escapes; other characters must be ASCII and stand for themselves. -/
def bytes? : Text → Option (List Nat)
  | [] => some []
  | .char '%' :: a :: b :: rest => do
    let high ← hexValue? a
    let low ← hexValue? b
    let others ← bytes? rest
    pure ((16 * high + low) :: others)
  | c :: rest =>
    if c = '%' || 0x80 ≤ c.toNat then none else (bytes? rest).map (c.toNat :: ·)

def decode? (t : Text) : Option Text := (bytes? t).bind Utf8.decode?

end OneTimeCode.Percent
