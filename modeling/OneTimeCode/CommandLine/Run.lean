import OneTimeCode.CommandLine.Arguments
import OneTimeCode.CommandLine.Report
import OneTimeCode.Log.Setup
import OneTimeCode.Offline
import OneTimeCode.Settings.Loading
import OneTimeCode.Verification.Client

/-!
# Running a command

A run sets up the log, reads the arguments, carries out the command with the provider they select,
and closes it.
-/
namespace OneTimeCode.CommandLine
open Text

/-- What a run finds around it: the environment, the outcomes of the posts it will make, a random
number, the stream for its lines, and whether the offline provider is stalled and never answers. -/
structure Surroundings where
  environment : Environment
  script : Script
  random : Int
  stream : Stream := .utf8
  stalled : Bool
  /-- Whether the pool of the client takes longer than the run waits; closing the client lets it
  finish. -/
  slow : Bool := false

def codeLength : Nat := 6

/-- How many codes of `codeLength` digits there are. -/
def codeCount : Nat := Nat.pow 10 codeLength

def randomCode (random : Int) : Text :=
  padLeft '0' codeLength (Integer.natText (random % codeCount).toNat)

/-- The code given, or a random one of `codeLength` digits. -/
def codeOrRandom (random : Int) (code : Json) : Json :=
  if code.isMissing then .text (randomCode random) else code

/-- What a refusal of a workflow means for a run. -/
def Obstacle.ofWorkflow (error : WorkflowError) : Obstacle :=
  match error.userError with
  | .ok shown => .trouble (.user shown)
  | .error reason => .escape (.mismatch reason)

/-- What a refusal of the client means for a run. -/
def Obstacle.ofRequest : RequestError → Obstacle
  | .mismatch reason => .escape (.mismatch reason)
  | error => .trouble (.invalidValue error.message)

/-- The call that a command asks for. -/
def Command.call (random : Int) : Command → Except Obstacle Call
  | .send destination code channel clientType languages => do
    let ranges ← (Header.read languages.textOrEmpty).mapError fun e =>
      .trouble (.invalidValue e.message)
    let request : CodeRequest := {
      destination := .text destination
      code := codeOrRandom random code
      channel, clientType
      ranges := ranges.map .built }
    request.call.mapError .ofWorkflow
  | .approve id agent context =>
    let report : ApprovalReport := ⟨.text id, agent, context⟩
    (report.call (.text registration)).mapError .ofWorkflow

/-- Waits for the result of a call that was taken on. -/
def awaitPromise (timeout : Json) : Promise → Awaited
  | .fulfilled result => .result result
  | .broken error => .escaped (.reply error)
  | .pending | .cancelled => waitInVain timeout

/-- What a wait comes to that the offline provider has answered. -/
def awaitAnswer : Except Mismatch CallResult → Awaited
  | .ok result => .result result
  | .error reason => .escaped (.mismatch reason)

def runOffline (arguments : Arguments) (around : Surroundings) : Report :=
  match arguments.command.call around.random with
  | .error obstacle => .stopped obstacle
  | .ok call =>
    let (answer, _, _) := ({} : Offline).call call
    .ofAwaited around.stream arguments.timeout
      (if around.stalled then waitInVain arguments.timeout else awaitAnswer answer)

/-- The client that a run uses: with a pool of its own and working counters. -/
def client (settings : Settings) (script : Script) : Except Unencodable Client :=
  Client.connect settings supportedLanguages
    { policy := settings.policy, executor := .pool true, script } .working

/-- Carries out a command with a client. -/
def runWith (client : Client) (arguments : Arguments) (around : Surroundings) : Report × Client :=
  match arguments.command.call around.random with
  | .error obstacle => (.stopped obstacle, client)
  | .ok call =>
    let (trace, next) := client.call call
    let report : Report := match trace.answer with
      | .error e => .stopped (.ofRequest e)
      | .ok promise => .ofAwaited around.stream arguments.timeout
        (awaitPromise arguments.timeout (if around.slow then .pending else promise))
    let log := if around.slow then report.log ++ trace.log else trace.log ++ report.log
    ({ report with log, posts := trace.posts }, next)

def runRemote (arguments : Arguments) (around : Surroundings) : Report :=
  match Settings.load around.environment with
  | .error e => .refused (.invalidValue e.message)
  | .ok settings =>
    match client settings around.script with
    | .error fault => .refused (.invalidValue fault.message)
    | .ok client =>
      let (report, last) := runWith client arguments around
      { report with closings := last.close.session.closings }

def runArguments (arguments : Arguments) (around : Surroundings) : Report :=
  if arguments.mock then runOffline arguments around else runRemote arguments around

/-- A run for the words behind the program's name. -/
def run (words : List Text) (around : Surroundings) : Report :=
  match (Log.State.initial []).configure around.environment (.number Severity.info.level) with
  | .error e => .escaped (.logLevel e)
  | .ok (_, log) =>
    match Arguments.read words with
    | .error exit => { ending := .usage exit }
    | .ok arguments =>
      let report := runArguments arguments around
      { report with log := report.log.filter log.shows }

end OneTimeCode.CommandLine
