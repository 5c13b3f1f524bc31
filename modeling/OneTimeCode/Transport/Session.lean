import OneTimeCode.Transport.Delivery

/-!
# Sessions

A session delivers letters under one policy. Jobs are done at once, by a pool of workers until the
session is closed, by nobody, or one by one when somebody asks for it.
-/
namespace OneTimeCode

inductive Executor where
  | immediate
  | pool (running : Bool)
  | refusing
  | manual
deriving DecidableEq, Repr

/-- Whether a job is taken on. -/
def Executor.accepts : Executor → Bool
  | immediate | manual => true
  | pool running => running
  | refusing => false

inductive SessionError where
  | noWorkers
  | mismatch (reason : Mismatch)
deriving DecidableEq, Repr

def SessionError.message : SessionError → Text
  | noWorkers => "max_workers must be greater than 0"
  | mismatch reason => reason.message

structure Session where
  policy : Policy
  executor : Executor
  script : Script
  /-- Whether the connection below can be closed. -/
  closable : Bool := true
  closings : Nat := 0

namespace Session

/-- A pool needs a worker; null leaves their number open. -/
def checkWorkers : Json → Except SessionError Unit
  | .null => .ok ()
  | workers =>
    match workers.isZeroOrNegative? with
    | some false => .ok ()
    | some true => .error .noWorkers
    | none => .error (.mismatch .otherKind)

/-- Only a session with a pool of its own needs workers. -/
def start (session : Session) (workers : Json) : Except SessionError Session :=
  match session.executor with
  | .pool _ => (checkWorkers workers).map fun _ => session
  | _ => .ok session

/-- Delivers a letter and keeps the rest of the script. -/
def send (session : Session) (letter : Letter) : Delivery × Session :=
  let delivery := session.policy.deliver letter session.script
  (delivery, { session with script := delivery.script })

/-- Stops the pool and closes the connection below. -/
def close (session : Session) : Session :=
  { session with
    executor := match session.executor with
      | .pool _ => .pool false
      | other => other
    closings := if session.closable then session.closings + 1 else session.closings }

/-- Delivers a letter by the executor, if it takes the job. -/
def submit (session : Session) (letter : Letter) : Delivery × Session :=
  if session.executor.accepts then session.send letter
  else (.failed .shutDown session.script, session)

end Session
end OneTimeCode
