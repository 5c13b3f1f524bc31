import OneTimeCode.Verification.Handling

/-!
# Pending calls

A call that was taken on has a job for the transport and a promise for the caller. Once the job is
settled, its answer is handled exactly once and the promise is fulfilled, unless the caller has
cancelled it before; then the answer is handled all the same and the result is dropped.
-/
namespace OneTimeCode

inductive Promise where
  | pending
  | cancelled
  | fulfilled (result : CallResult)
  | broken (error : ReplyError)
deriving DecidableEq

namespace Promise

/-- The entry for a result that nobody waits for any more. -/
def dropped : LogEntry := ⟨.error, "concurrent.futures", "callback failed"⟩

/-- What the result of a handling leaves behind, and what is noted when it comes too late. -/
def settle (promise : Promise) (result : Except ReplyError CallResult) : Promise × List Effect :=
  match promise with
  | pending =>
    match result with
    | .ok value => (fulfilled value, [])
    | .error e => (broken e, [])
  | settled => (settled, [.note dropped])

/-- Cancels a promise that is still pending; a cancelled one counts as cancelled again. -/
def cancel : Promise → Promise × Bool
  | pending | cancelled => (cancelled, true)
  | settled => (settled, false)

end Promise

inductive Job where
  | queued | finished | cancelled
deriving DecidableEq, Repr

structure Ticket where
  letter : Letter
  purpose : Purpose
  job : Job := .queued
  promise : Promise := .pending

namespace Ticket

/-- Handles the answer of the transport. -/
def answer (ticket : Ticket) (job : Job) (answer : Except TransportError Response) :
    Ticket × List Effect :=
  let handling := ticket.purpose.handle answer
  let (promise, late) := ticket.promise.settle handling.result
  ({ ticket with job := job, promise := promise }, handling.effects ++ late)

end Ticket
end OneTimeCode
