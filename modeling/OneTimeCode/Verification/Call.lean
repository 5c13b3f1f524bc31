import OneTimeCode.Language.Item

/-!
# Calls of the verification service

The two calls that a provider of verifications answers: to send a code to a destination, and to
confirm that a verification was passed. What they are about is as the caller gave it.
-/
namespace OneTimeCode

inductive Channel where
  | sms | voice
deriving DecidableEq, Repr

namespace Channel

def name : Channel → Text
  | sms => "sms"
  | voice => "voice"

/-- The provider's word for the channel. -/
def wireName : Channel → Text
  | sms => "sms"
  | voice => "call"

def all : List Channel := [sms, voice]

def ofName? (t : Text) : Option Channel := all.find? (·.name = t)

def ofJson? (given : Json) : Option Channel := given.text?.bind ofName?

theorem ofName?_name (c : Channel) : ofName? c.name = some c := by
  cases c <;> decide

theorem ofJson?_name (c : Channel) : ofJson? (.text c.name) = some c := by
  simp [ofJson?, ofName?_name]

end Channel

structure SendCall where
  channel : Json
  destination : Json
  code : Json
  clientType : Json
  ranges : List RangeItem

structure ConfirmCall where
  id : Json
  agent : Json
  context : Json

inductive Call where
  | send (call : SendCall)
  | confirm (call : ConfirmCall)

namespace Call

/-- A code by text message. -/
def sms (destination clientType code : Json) (ranges : List RangeItem) : Call :=
  .send ⟨.text Channel.sms.name, destination, code, clientType, ranges⟩

/-- A code by a voice call, which no app on the client reads. -/
def voice (destination code : Json) (ranges : List RangeItem) : Call :=
  .send ⟨.text Channel.voice.name, destination, code, .null, ranges⟩

end Call

/-- What a call that was taken on comes to: the identifier of a new verification, if there is one,
or whether the provider counts the verification as approved. -/
inductive CallResult where
  | sent (id : Option Text)
  | confirmed (approved : Bool)
deriving DecidableEq

end OneTimeCode
