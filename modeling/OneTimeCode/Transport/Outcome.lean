import OneTimeCode.Named
import OneTimeCode.Text.Blank
import OneTimeCode.Text.Case

/-!
# Outcomes of a post

A post is answered by a response, or it fails. Failures of the connection may pass and are worth a
second attempt, a request that cannot be sent as it stands is not, and a defect outside the
protocol is nobody's business here. A script lists the outcomes that posts meet one after the other.
-/
namespace OneTimeCode
open Text

structure Response where
  status : Option Int
  body : Text
  headers : List (Text × Text)
deriving DecidableEq

namespace Response

/-- The header of that name in any case; the last one counts. -/
def header? (name : Text) (response : Response) : Option Text :=
  (response.headers.reverse.find? fun h => lower h.1 = lower name).map (·.2)

/-- The media type without parameters, in lower case. -/
def mediaType? (response : Response) : Option Text :=
  match response.header? "Content-Type" with
  | some (c :: rest) => some (lower (trim (before ';' (c :: rest))))
  | _ => none

end Response

/-- An error outside the protocol: of the running program or of a value. -/
inductive Defect where
  | runtime | value
deriving DecidableEq, Repr

inductive Fault where
  | timeout | connectTimeout | readTimeout | connection | encryption | proxy
  | invalidUrl | redirects | chunked | request
  | defect (kind : Defect)
deriving DecidableEq, Repr

inductive FaultFamily where
  | connectivity
  | rejection
  | defect (kind : Defect)
deriving DecidableEq, Repr

def Fault.family : Fault → FaultFamily
  | timeout | connectTimeout | readTimeout | connection | encryption | proxy => .connectivity
  | invalidUrl | redirects | chunked | request => .rejection
  | defect kind => .defect kind

inductive Outcome where
  | response (response : Response)
  | fault (fault : Fault) (reason : Text)
deriving DecidableEq

abbrev Script := List Outcome

/-- The outcome of a post that no script foresees. -/
def unforeseen : Outcome := .fault (.defect .runtime) "no outcome configured"

/-- The next outcome and the script for later posts; the last outcome repeats. -/
def Script.play : Script → Outcome × Script
  | [] => (unforeseen, [])
  | [outcome] => (outcome, [outcome])
  | outcome :: rest => (outcome, rest)

end OneTimeCode
