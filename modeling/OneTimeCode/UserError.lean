import OneTimeCode.Json.Basic
import OneTimeCode.Text.Blank

/-!
# Errors for users

Whatever goes wrong on the way to a result is shown to the user as a stable code with a message.
Both are values as whoever made the error gave them.
-/
namespace OneTimeCode
open Text

structure UserError where
  code : Json
  message : Json

/-- What a caller meets: an error made for users, a wait that took too long, a value that is not
accepted, or anything else that says something of itself. -/
inductive Trouble where
  | user (error : UserError)
  | waitedTooLong
  | invalidValue (hint : Text)
  | other (hint : Text)

namespace UserError

/-- An error of this library's own. -/
def of (code message : Text) : UserError := ⟨.text code, .text message⟩

/-- Code and message in one line. -/
def line (error : UserError) : Text := error.code.display ++ ": " ++ error.message.display

/-- A sentence, continued by the hint if that says anything. -/
def compose (base hint : Text) : Text :=
  let said := trim hint
  if said.isEmpty then base ++ "." else base ++ ": " ++ said

/-- The first of two values that is not missing. -/
def firstSaid (preferred other : Json) : Json := if preferred.isMissing then other else preferred

/-- The error for users; one made for them already stays as it is. -/
def ofTrouble (defaultCode defaultMessage : Json) : Trouble → UserError
  | .user error => error
  | .waitedTooLong => of "REQUEST_TIMEOUT" "Timed out waiting for the provider."
  | .invalidValue hint => of "INVALID_INPUT" (compose "Invalid input" hint)
  | .other hint =>
    ⟨defaultCode, firstSaid defaultMessage (firstSaid (.text hint) (.text "Unexpected error."))⟩

end UserError
end OneTimeCode
