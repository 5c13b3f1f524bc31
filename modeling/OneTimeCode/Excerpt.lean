import OneTimeCode.Json.Kind
import OneTimeCode.Text.Blank

/-! # Excerpts of response bodies for messages -/
namespace OneTimeCode.Excerpt
open Text

def defaultLimit : Int := 400

/-- The beginning of a body without the blanks around it, if anything is left. -/
def ofText? (body : Text) (limit : Int) : Option Text :=
  let shown := trim body
  if shown.isEmpty then none else some (leading limit shown)

/-- The excerpt of a body under a limit as given by a caller; null sets no limit. -/
def ofGiven (body limit : Json) : Except Mismatch (Option Text) :=
  let t := body.textOrEmpty
  match limit with
  | .null => .ok (ofText? t t.length)
  | given => if (trim t).isEmpty then .ok none else given.requireWhole.map (ofText? t)

/-- How an excerpt is shown inside a message. -/
def literal : Option Text → Text
  | some excerpt => quoted excerpt
  | none => Json.null.literal

end OneTimeCode.Excerpt
