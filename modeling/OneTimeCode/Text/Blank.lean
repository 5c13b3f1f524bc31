import OneTimeCode.Text.Basic

/-!
# Blank characters and trimming

The blank characters are those of the Unicode property `White_Space` and the four information
separators U+001C to U+001F. A zero width space and a byte order mark are not blank.
-/
namespace OneTimeCode.Text

def blankRanges : List (Nat × Nat) :=
  [(0x09, 0x0D), (0x1C, 0x20), (0x85, 0x85), (0xA0, 0xA0), (0x1680, 0x1680), (0x2000, 0x200A),
    (0x2028, 0x2029), (0x202F, 0x202F), (0x205F, 0x205F), (0x3000, 0x3000)]

def isBlank (c : CodePoint) : Bool := inRanges blankRanges c

/-- Numbers tolerate every blank around them but the information separators. -/
def isNumberBlank (c : CodePoint) : Bool :=
  isBlank c && !inRanges [(0x1C, 0x1F)] c

def trimBy (p : CodePoint → Bool) (t : Text) : Text :=
  dropTrailing p (t.dropWhile p)

/-- Removes the blank characters at both ends. -/
def trim (t : Text) : Text := trimBy isBlank t

theorem dropTrailing_dropTrailing (p : CodePoint → Bool) (t : Text) :
    dropTrailing p (dropTrailing p t) = dropTrailing p t := by
  simp only [dropTrailing, List.reverse_reverse]
  congr 1
  induction t.reverse with
  | nil => rfl
  | cons c rest ih =>
    by_cases h : p c = true
    · simp [h, ih]
    · simp [h]

end OneTimeCode.Text
