import OneTimeCode.Language.Range

/-!
# Items of a preference list

A caller lists language ranges as texts or as ranges with a weight; a text is a range of full
weight, and any other value is read by the text that shows it.
-/
namespace OneTimeCode
open Text

/-- What a caller may list as a range: a finished range, or a value whose text is to be read. -/
inductive RangeItem where
  | plain (value : Json)
  | built (range : LanguageRange)

namespace RangeItem

def range : RangeItem → Except RangeError LanguageRange
  | plain value => LanguageRange.ofText value.display Weight.full
  | built range => .ok range

def literal : RangeItem → Text
  | plain value => value.literal
  | built range => range.literal

/-- Whether the item is a text or a finished range. -/
def isRange : RangeItem → Bool
  | plain value => value.text?.isSome
  | built _ => true

def literals (items : List RangeItem) : Text := "[" ++ join ", " (items.map literal) ++ "]"

end RangeItem
end OneTimeCode
