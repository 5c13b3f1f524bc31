import OneTimeCode.Text.Hex
import OneTimeCode.Text.Printable

/-!
# Quoted texts

How a text is shown inside a message: between single quotes, or between double quotes if it holds a
single quote and no double quote; the quote in use and the backslash are escaped, and what is not
printable, such as a half, is written by its code point.
-/
namespace OneTimeCode.Text

/-- The code point of what cannot be printed. -/
def numericEscape (n : Nat) : Text :=
  if n < 0x100 then '\\' :: 'x' :: hex 2 n
  else if n < 0x10000 then '\\' :: 'u' :: hex 4 n
  else '\\' :: 'U' :: hex 8 n

def escapeIn (quote c : CodePoint) : Text :=
  if c = quote || c = '\\' then ['\\', c]
  else if c = '\t' then ['\\', 't']
  else if c = '\n' then ['\\', 'n']
  else if c = '\r' then ['\\', 'r']
  else if isPrintable c then [c]
  else numericEscape c.toNat

def quoteFor (t : Text) : CodePoint :=
  if t.contains '\'' && !t.contains '"' then '"' else '\''

def quoted (t : Text) : Text :=
  let quote := quoteFor t
  quote :: t.flatMap (escapeIn quote) ++ [quote]

end OneTimeCode.Text
