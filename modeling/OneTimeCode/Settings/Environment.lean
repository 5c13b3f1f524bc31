import OneTimeCode.Json.Kind
import OneTimeCode.Text.Blank

/-! # Environments -/
namespace OneTimeCode

/-- Variables with their texts. -/
abbrev Environment := Named Text

namespace Environment

/-- The text of a variable without the blanks around it; nothing for an absent one. -/
def trimmed (environment : Environment) (name : Text) : Text :=
  Text.trim ((Named.get? name environment).getD [])

/-- The variables as values. -/
def values (environment : Environment) : Named Json :=
  environment.map fun entry => (entry.1, .text entry.2)

end Environment

/-- The trimmed text of a value under a name; nothing for an absent one. -/
def Named.trimmed (name : Text) (values : Named Json) : Except Mismatch Text :=
  match values.get? name with
  | none => .ok []
  | some value =>
    match value.text? with
    | some t => .ok (Text.trim t)
    | none => .error .notText

end OneTimeCode
