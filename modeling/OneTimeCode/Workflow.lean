import OneTimeCode.UserError
import OneTimeCode.Verification.Call

/-!
# Workflows

What is checked before a call reaches any provider. A request for a code needs a destination, a
code, a known channel and language ranges; a report needs the identifier of a verification.
-/
namespace OneTimeCode
open Text

inductive WorkflowError where
  | noDestination
  | noCode
  | unsupportedChannel (given : Json)
  | invalidRange (item : RangeItem)
  | noVerificationId
  | mismatch (reason : Mismatch)

namespace WorkflowError

def message : WorkflowError → Text
  | noDestination => "Destination is required."
  | noCode => "Verification code is required."
  | unsupportedChannel given => "Unsupported channel '" ++ given.display ++ "'."
  | invalidRange item => "Invalid language range " ++ item.literal ++ "."
  | noVerificationId => "Verification id is required."
  | mismatch reason => reason.message

/-- The error that a user is shown; a value that cannot be used at all is no user's mistake. -/
def userError : WorkflowError → Except Mismatch UserError
  | mismatch reason => .error reason
  | error => .ok (.of "INVALID_REQUEST" error.message)

end WorkflowError

def trimmedText (value : Json) : Except WorkflowError Text :=
  (value.requireText.map trim).mapError .mismatch

@[simp] theorem trimmedText_text (t : Text) : trimmedText (.text t) = .ok (trim t) := by
  cases t <;> rfl

/-- A request for a code as a user gives it. -/
structure CodeRequest where
  destination : Json
  code : Json
  channel : Json := .text Channel.sms.name
  clientType : Json := .null
  ranges : List RangeItem := []

/-- The ranges of a request, if they are all texts or finished ranges. -/
def CodeRequest.checkedRanges (request : CodeRequest) : Except WorkflowError (List RangeItem) :=
  match request.ranges.find? (!·.isRange) with
  | some item => .error (.invalidRange item)
  | none => .ok request.ranges

/-- The call for a request; a voice call never mentions the type of the client. -/
def CodeRequest.call (request : CodeRequest) : Except WorkflowError Call := do
  let destination ← trimmedText request.destination
  let code ← trimmedText request.code
  if destination.isEmpty then throw .noDestination
  if code.isEmpty then throw .noCode
  match Channel.ofJson? request.channel with
  | none => throw (.unsupportedChannel request.channel)
  | some channel =>
    let ranges ← request.checkedRanges
    match channel with
    | .voice => pure (Call.voice (.text destination) (.text code) ranges)
    | .sms => pure (Call.sms (.text destination) request.clientType (.text code) ranges)

/-- A report that a verification was passed. -/
structure ApprovalReport where
  id : Json
  agent : Json
  context : Json

/-- Where a verification belongs if nobody says otherwise. -/
def registration : Text := "registration"

/-- The call for a report; a blank context is replaced by the default one. -/
def ApprovalReport.call (report : ApprovalReport) (defaultContext : Json) :
    Except WorkflowError Call := do
  let id ← trimmedText report.id
  if id.isEmpty then throw .noVerificationId
  let context ← trimmedText report.context
  pure (.confirm
    ⟨.text id, report.agent, if context.isEmpty then defaultContext else .text context⟩)

end OneTimeCode
