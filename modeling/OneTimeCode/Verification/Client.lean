import OneTimeCode.Language.Lookup
import OneTimeCode.Transport.Session
import OneTimeCode.Verification.Metrics
import OneTimeCode.Verification.Pending
import OneTimeCode.Verification.Request

/-!
# The client of the provider

The client turns calls into letters, hands them to its session and handles the answers. A call
either is refused before anything is sent, or it is taken on and gets a promise. With a manual
session every call that is taken on has a ticket, by which its job is run or cancelled and its
promise cancelled.
-/
namespace OneTimeCode

structure Client where
  settings : Settings
  authorization : Text
  supported : List Text
  session : Session
  metrics : Metrics
  tickets : List Ticket := []

/-- What a step of the client did: its answer, the posts it made and the entries it logged. -/
structure Trace (α : Type) where
  answer : α
  posts : List Post := []
  log : List LogEntry := []

/-- What a caller may do with a client. -/
inductive Action where
  | call (call : Call)
  | runJob (index : Nat)
  | cancelJob (index : Nat)
  | cancelPromise (index : Nat)
  | close

/-- What an action comes to: a refusal, a promise, whether a ticket took the action and the state of
its promise, or how often the connection has been closed. -/
inductive Answer where
  | refused (error : RequestError)
  | taken (promise : Promise)
  | ticket (done : Bool) (promise : Promise)
  | noTicket
  | closed (closings : Nat)

namespace Client

/-- A client with a session and a sink, if account and token can be encoded. -/
def connect (settings : Settings) (supported : List Text) (session : Session) (sink : Sink) :
    Except Unencodable Client :=
  settings.authorization.map fun authorization =>
    { settings, authorization, supported, session, metrics := { sink } }

def rangesIgnored (ranges : List RangeItem) (error : RangeError) : LogEntry :=
  ⟨.debug, Handling.source, "Ignoring malformed language ranges " ++ RangeItem.literals ranges
    ++ ": " ++ error.message⟩

/-- The supported language that suits best; malformed ranges count as none and are noted. -/
def bestLocale (client : Client) (ranges : List RangeItem) : Trace (Option Text) :=
  match Lookup.best ranges client.supported with
  | .ok locale => ⟨locale, [], []⟩
  | .error e => ⟨none, [], [rangesIgnored ranges e]⟩

/-- The letter of a call and what the call waits for, with the entries logged on the way. -/
def compose (client : Client) : Call → Trace (Except RequestError (Letter × Purpose))
  | .send call =>
    match Channel.ofJson? call.channel with
    | none => ⟨.error (.unsupportedChannel call.channel), [], []⟩
    | some channel =>
      let best := client.bestLocale call.ranges
      let locale := (best.answer.map Json.text).getD .null
      let order : CodeOrder := ⟨channel, call.destination, call.code, locale, call.clientType⟩
      let letter := (client.settings.codeLetter client.authorization order).mapError
        RequestError.mismatch
      ⟨letter.map fun l => (l, .code call.destination), [], best.log⟩
  | .confirm call =>
    let letter := do
      let id ← call.verificationId
      (client.settings.approvalLetter client.authorization id).mapError RequestError.unencodable
    ⟨letter.map fun l => (l, .approval call.agent call.context), [], []⟩

/-- Handles the answer of the transport for a ticket. -/
def conclude (client : Client) (ticket : Ticket) (job : Job)
    (answer : Except TransportError Response) : Ticket × Client × List LogEntry :=
  let (settled, effects) := ticket.answer job answer
  let (metrics, log) := client.metrics.perform effects
  (settled, { client with metrics := metrics }, log)

/-- Lets the transport do the job of a ticket. -/
def deliver (client : Client) (ticket : Ticket) : Trace Ticket × Client :=
  let (delivery, session) := client.session.send ticket.letter
  let (settled, next, log) :=
    { client with session := session }.conclude ticket .finished delivery.answer
  (⟨settled, delivery.posts, delivery.log ++ log⟩, next)

/-- Settles a ticket without the transport. -/
def abandon (client : Client) (ticket : Ticket) (reason : TransportError) : Trace Ticket × Client :=
  let (settled, next, log) := client.conclude ticket .cancelled (.error reason)
  (⟨settled, [], log⟩, next)

/-- Hands a ticket to the session. -/
def submit (client : Client) (ticket : Ticket) : Trace Ticket × Client :=
  match client.session.executor with
  | .manual => (⟨ticket, [], []⟩, { client with tickets := client.tickets ++ [ticket] })
  | executor => if executor.accepts then client.deliver ticket else client.abandon ticket .shutDown

def call (client : Client) (call : Call) : Trace (Except RequestError Promise) × Client :=
  let composed := client.compose call
  match composed.answer with
  | .error e => (⟨.error e, [], composed.log⟩, client)
  | .ok (letter, purpose) =>
    let (trace, next) := client.submit { letter, purpose }
    (⟨.ok trace.answer.promise, trace.posts, composed.log ++ trace.log⟩, next)

/-- Puts the settled ticket in its place. -/
def record (index : Nat) (settled : Trace Ticket × Client) : Trace Answer × Client :=
  let (trace, next) := settled
  (⟨.ticket true trace.answer.promise, trace.posts, trace.log⟩,
    { next with tickets := next.tickets.set index trace.answer })

/-- The action on a ticket has nothing left to do. -/
def unchanged (client : Client) (ticket : Ticket) (done : Bool) : Trace Answer × Client :=
  (⟨.ticket done ticket.promise, [], []⟩, client)

/-- Lets the transport do a job that is still queued. -/
def runJob (client : Client) (index : Nat) (ticket : Ticket) : Trace Answer × Client :=
  match ticket.job with
  | .queued => record index (client.deliver ticket)
  | _ => client.unchanged ticket false

/-- Cancels a job that has not run; a cancelled one counts as cancelled again. -/
def cancelJob (client : Client) (index : Nat) (ticket : Ticket) : Trace Answer × Client :=
  match ticket.job with
  | .queued => record index (client.abandon ticket .withdrawn)
  | .cancelled => client.unchanged ticket true
  | .finished => client.unchanged ticket false

/-- Cancels the promise of a call, which leaves its job alone. -/
def cancelPromise (client : Client) (index : Nat) (ticket : Ticket) : Trace Answer × Client :=
  let (promise, done) := ticket.promise.cancel
  (⟨.ticket done promise, [], []⟩,
    { client with tickets := client.tickets.set index { ticket with promise := promise } })

def close (client : Client) : Client := { client with session := client.session.close }

def onTicket (client : Client) (index : Nat)
    (act : Client → Nat → Ticket → Trace Answer × Client) : Trace Answer × Client :=
  match client.tickets[index]? with
  | some ticket => act client index ticket
  | none => (⟨.noTicket, [], []⟩, client)

def act (client : Client) : Action → Trace Answer × Client
  | .call c =>
    let (trace, next) := client.call c
    let answer := match trace.answer with
      | .error e => .refused e
      | .ok promise => .taken promise
    (⟨answer, trace.posts, trace.log⟩, next)
  | .runJob index => client.onTicket index runJob
  | .cancelJob index => client.onTicket index cancelJob
  | .cancelPromise index => client.onTicket index cancelPromise
  | .close => (⟨.closed client.close.session.closings, [], []⟩, client.close)

/-- Performs the actions one after the other. -/
def acts (client : Client) : List Action → List (Trace Answer) × Client
  | [] => ([], client)
  | action :: rest =>
    let (trace, next) := client.act action
    let (traces, last) := next.acts rest
    (trace :: traces, last)

end Client
end OneTimeCode
