import OneTimeCode.Counter
import OneTimeCode.Platform
import OneTimeCode.Redaction
import OneTimeCode.Transport.Delivery
import OneTimeCode.Verification.Call
import OneTimeCode.Verification.Reply

/-!
# Handling of answers

What an answer of the transport means for the call behind it: a list of effects in their order, log
entries and counts, and the result of the call. A failure of the transport is a result like any
other; only a reply that cannot be read leaves the call without one.
-/
namespace OneTimeCode
open Text

inductive Effect where
  | note (entry : LogEntry)
  | count (name : Text) (tags : List (Text × Text))
deriving DecidableEq

structure Handling (α : Type) where
  effects : List Effect
  result : Except ReplyError α

namespace Handling

def source : Text := Reply.source

def failedRequests : Text := "smsverify.verify.failed_request"

def verifications : Text := "smsverify.verify.verification_succeeded"

def transportFailures : Text := "smsverify.verify.transport_failure"

def unknown : Text := "unknown"

def note (severity : Severity) (message : Text) : Effect := .note ⟨severity, source, message⟩

/-- A number as a tag. -/
def tagOf : Option Int → Text
  | some n => Integer.text n
  | none => unknown

/-- A number inside a message. -/
def shown : Option Int → Text
  | some n => Integer.text n
  | none => Json.null.literal

def shownText : Option Text → Text
  | some t => t
  | none => Json.null.literal

/-- The status that a failure is counted under: that of the body, else that of the response. -/
def statusTag (status : Option Int) (http : Int) : Text := Integer.text (status.getD http)

/-- The transport failed while `operation` was under way. -/
def transportFailed {α : Type} (complaint operation : Text) (error : TransportError) (result : α) :
    Handling α :=
  ⟨[note .warning (complaint ++ error.message), .count transportFailures [("operation", operation)]],
    .ok result⟩

/-- The identifier that a reply to a request for a code names. -/
def sendReply (destination : Json) : Reply → List Effect × Option Text
  | .success id _ _ => ([], id)
  | .failure status code _ http =>
    ([.count failedRequests [("service", "verify"), ("statusCode", statusTag status http),
        ("errorCode", tagOf code)],
      note .info ("Verification request failed with code=" ++ shown code ++ ", destination="
        ++ Redaction.mask destination.textOrEmpty Redaction.defaultVisible)], none)

/-- The tags that every approval is counted under. -/
def approvalTags (agent context : Json) : List (Text × Text) :=
  [("context", context.display), ("platform", Platform.label agent.text?)]

/-- The further tags of an approval that did not go through. -/
def refusalTags (code status : Text) : List (Text × Text) :=
  [("errorCode", code), ("statusCode", status)]

/-- Whether a reply to a confirmation says that the verification is approved. -/
def confirmReply (agent context : Json) (reply : Reply) : List Effect × Bool :=
  let tags := approvalTags agent context
  match reply with
  | .success _ status http =>
    if reply.isApproved then ([.count verifications tags], true)
    else ([note .info ("Approval response carried status=" ++ shownText status),
      .count verifications (tags ++ refusalTags unknown (Integer.text http))], false)
  | .failure status code _ http =>
    ([.count verifications (tags ++ refusalTags (tagOf code) (statusTag status http))], false)

/-- Reads a response and goes on with the reply. -/
def ofResponse {α : Type} (response : Response) (next : Reply → List Effect × α) : Handling α :=
  let reading := response.reading
  let read := reading.log.map .note
  match reading.reply with
  | .error e => ⟨read ++ [note .error "Verify response handler failed"], .error e⟩
  | .ok reply =>
    let (effects, result) := next reply
    ⟨read ++ effects, .ok result⟩

def ofSend (destination : Json) : Except TransportError Response → Handling (Option Text)
  | .error e => transportFailed "Failed to send verification request: " "send" e none
  | .ok response => ofResponse response (sendReply destination)

def ofConfirm (agent context : Json) : Except TransportError Response → Handling Bool
  | .error e => transportFailed "Failed to send verification succeeded: " "approve" e false
  | .ok response => ofResponse response (confirmReply agent context)

end Handling

/-- What an accepted call waits for. -/
inductive Purpose where
  | code (destination : Json)
  | approval (agent context : Json)

def Purpose.handle (purpose : Purpose) (answer : Except TransportError Response) :
    Handling CallResult :=
  match purpose with
  | code destination =>
    let handling := Handling.ofSend destination answer
    ⟨handling.effects, handling.result.map .sent⟩
  | approval agent context =>
    let handling := Handling.ofConfirm agent context answer
    ⟨handling.effects, handling.result.map .confirmed⟩

end OneTimeCode
