import OneTimeCode.Json.Kind
import OneTimeCode.Text.Blank

/-! # Destinations in messages

Of a destination only the leading characters are shown, each of the others as an asterisk. -/
namespace OneTimeCode
open Text

/-- Why a destination cannot be masked: the count of characters to show is none, or the negative
count asks for more asterisks than can be counted or kept. -/
inductive MaskError where
  | mismatch (reason : Mismatch)
  | uncountable
  | noRoom
deriving DecidableEq

def MaskError.message : MaskError → Text
  | mismatch reason => reason.message
  | uncountable => "cannot fit 'int' into an index-sized integer"
  | noRoom => []

namespace Redaction

def defaultVisible : Int := 4

def nothing : Text := "<empty>"

def asterisks (n : Nat) : Text := List.replicate n '*'

def mask (destination : Text) (visible : Int) : Text :=
  let shown := trim destination
  if shown.isEmpty then nothing
  else if (shown.length : Int) ≤ visible then asterisks shown.length
  else leading visible shown ++ asterisks (shown.length - visible).toNat

/-- The most asterisks that can be counted. -/
def countLimit : Nat := Nat.pow 2 63 - 1

/-- The most asterisks that can be kept. -/
def roomLimit : Nat := Nat.pow 2 32

/-- Masks a destination as given by a caller. A blank one hides nothing whatever is given for the
count of characters to show, and only a whole number can leave some of them to be shown. -/
def maskGiven (destination visible : Json) : Except MaskError Text :=
  let t := destination.textOrEmpty
  let length := (trim t).length
  if length = 0 then .ok nothing
  else match visible.isAtLeast? length, visible.whole? with
    | some true, _ => .ok (asterisks length)
    | some false, some n =>
      if countLimit < length - n then .error .uncountable
      else if roomLimit < length - n then .error .noRoom
      else .ok (mask t n)
    | _, _ => .error (.mismatch .otherKind)

end Redaction
end OneTimeCode
