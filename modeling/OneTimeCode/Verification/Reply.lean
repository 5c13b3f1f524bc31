import OneTimeCode.Excerpt
import OneTimeCode.Json.Reader
import OneTimeCode.Log
import OneTimeCode.Number.Decimal
import OneTimeCode.Transport.Outcome

/-!
# Replies of the provider

A response with a status from 200 to 299 is a success, any other a failure. Only a body of the media
type for JSON is read; what cannot be read or is no object leaves the reply without members.
-/
namespace OneTimeCode
open Text

/-- A success has the verification's id and status, a failure its status, code and message as far
as the body tells them; both have the status of the response. -/
inductive Reply where
  | success (id status : Option Text) (http : Int)
  | failure (status code : Option Int) (message : Option Text) (http : Int)
deriving DecidableEq

/-- A member that should be a whole number is infinite. -/
inductive ReplyError where
  | infiniteNumber
deriving DecidableEq, Repr

def ReplyError.message : ReplyError → Text
  | infiniteNumber => Binary64.NoWholePart.infinite.message

/-- A reply and what was logged while it was read. -/
structure Reading where
  reply : Except ReplyError Reply
  log : List LogEntry

namespace Reply

def source : Text := "smsverify.adapters.verify_rest"

def approved : Text := "approved"

def isApproved : Reply → Bool
  | success _ status _ => status = some approved
  | failure .. => false

def http : Reply → Int
  | success _ _ http => http
  | failure _ _ _ http => http

/-- The text of a member, unless it is null or blank. -/
def textMember (name : Text) (body : Json) : Option Text :=
  match (body.member? name).getD .null with
  | .null => none
  | value =>
    let t := trim value.display
    if t.isEmpty then none else some t

/-- The whole number that a value stands for; fractions are cut off. -/
def wholeNumber : Json → Except ReplyError (Option Int)
  | .int n => .ok (some n)
  | .float x =>
    match x.wholePart with
    | .ok n => .ok (some n)
    | .error .notANumber => .ok none
    | .error .infinite => .error .infiniteNumber
  | .text t => .ok (Integer.read t).toOption
  | _ => .ok none

def numberMember (name : Text) (body : Json) : Except ReplyError (Option Int) :=
  wholeNumber ((body.member? name).getD .null)

end Reply

namespace Response

/-- What stands for the reason why a body is no JSON. -/
def parseErrorPattern : Text := "<json error>"

def jsonType : Text := "application/json"

def isJson (response : Response) : Bool := response.mediaType? = some jsonType

/-- Zero stands for a missing status. -/
def http (response : Response) : Int := response.status.getD 0

def isSuccess (response : Response) : Bool := 200 ≤ response.http && response.http < 300

def kind (response : Response) : Text := if response.isSuccess then "success" else "failure"

def excerpt (response : Response) : Text :=
  Excerpt.literal (Excerpt.ofText? response.body Excerpt.defaultLimit)

/-- The members of the body, and a warning if there is no object. -/
def object (response : Response) : Json × List LogEntry :=
  match Json.read? response.body with
  | none => (.object [], [⟨.warning, Reply.source, "Error parsing verify " ++ response.kind
      ++ " response: " ++ parseErrorPattern ++ " (body=" ++ response.excerpt ++ ")"⟩])
  | some (.object members) => (.object members, [])
  | some _ => (.object [], [⟨.warning, Reply.source, "Unexpected verify " ++ response.kind
      ++ " response shape: " ++ response.excerpt⟩])

/-- The body of a JSON response; nothing of any other. -/
def members (response : Response) : Json × List LogEntry :=
  if response.isJson then response.object else (.object [], [])

def replyOf (response : Response) (body : Json) : Except ReplyError Reply :=
  if response.isSuccess then
    .ok (.success (Reply.textMember "sid" body) (Reply.textMember "status" body) response.http)
  else do
    let status ← Reply.numberMember "status" body
    let code ← Reply.numberMember "code" body
    pure (.failure status code (Reply.textMember "message" body) response.http)

def reading (response : Response) : Reading :=
  let (body, log) := response.members
  ⟨response.replyOf body, log⟩

/-- What stands for a response that never came. -/
def missing : Response := ⟨none, [], []⟩

end Response
end OneTimeCode
