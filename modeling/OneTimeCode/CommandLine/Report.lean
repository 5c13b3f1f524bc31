import OneTimeCode.CommandLine.Word
import OneTimeCode.Encoding.Utf8
import OneTimeCode.Transport.Delivery
import OneTimeCode.UserError
import OneTimeCode.Verification.Pending

/-!
# Reports of runs

How a run ends and what it leaves behind. What the user did wrong is reported with exit code two, a
result that was not reached with exit code one. A line that cannot be written counts as the user's
mistake as well, even if the provider has done what it was asked for. A wait that no clock can time
and a value that cannot be used at all end the run with an error of their own.
-/
namespace OneTimeCode.CommandLine
open Text

/-- An error that no user error stands for. -/
inductive Escape where
  | logLevel (error : Integer.ReadError)
  | reply (error : ReplyError)
  | mismatch (reason : Mismatch)
  | waitTooLong

def Escape.message : Escape → Text
  | logLevel error => error.message
  | reply error => error.message
  | mismatch reason => reason.message
  | waitTooLong => "timestamp too large to convert to C _PyTime_t"

/-- Why a run does not get as far as waiting for a result. -/
inductive Obstacle where
  | trouble (trouble : Trouble)
  | escape (error : Escape)

inductive Ending where
  | exit (code : Nat)
  | usage (exit : Exit)
  | escaped (error : Escape)

/-- Where a run writes its lines. What it says of a line tells why it cannot take it, such as a
character that its encoding lacks. -/
structure Stream where
  fault? : Text → Option Text

/-- A stream of bytes in UTF-8. -/
def Stream.utf8 : Stream := ⟨fun line => (Utf8.obstacle? line).map (·.message)⟩

/-- What a run did: how it ended, the text it wrote, the entries that the log shows, the posts it
made and how often it closed the connection. -/
structure Report where
  ending : Ending
  output : Text := []
  log : List LogEntry := []
  posts : List Post := []
  closings : Nat := 0

def source : Text := "smsverify.app.main"

def complaint (message : Text) : LogEntry := ⟨.error, source, message⟩

/-- A run that ends with an error for the user. -/
def Report.refused (trouble : Trouble) : Report where
  ending := .exit 2
  log := [complaint (UserError.ofTrouble (.text "INVALID_REQUEST") .null trouble).line]

/-- A run that writes a line and ends with the code, if its stream takes the line. -/
def Report.written (stream : Stream) (code : Nat) (line : Text) : Report :=
  match stream.fault? line with
  | none => { ending := .exit code, output := line ++ "\n" }
  | some reason => .refused (.invalidValue reason)

def Report.escaped (error : Escape) : Report := { ending := .escaped error }

def Report.stopped : Obstacle → Report
  | .trouble trouble => .refused trouble
  | .escape error => .escaped error

/-- What comes of a wait for a result. -/
inductive Awaited where
  | result (result : CallResult)
  | escaped (error : Escape)
  | late

/-- From this many nanoseconds on the nearest binary64 number is beyond a clock of 63 bits. -/
def nanosecondLimit : Nat := Nat.pow 2 63 - Nat.pow 2 9

def nanosecondsPerSecond : Nat := Nat.pow 10 9

/-- Whether a wait of so many seconds is too long for the clock. -/
def isTooLong : Binary64 → Bool
  | .finite false steps =>
    decide (nanosecondLimit * Binary64.stepsPerUnit ≤ steps * nanosecondsPerSecond)
  | .infinity negative => !negative
  | _ => false

/-- What a wait comes to if there never is a result. -/
def waitInVain : Json → Awaited
  | .float seconds => if isTooLong seconds then .escaped .waitTooLong else .late
  | _ => .escaped (.mismatch .otherKind)

/-- A run that waited in vain. -/
def Report.timedOut (timeout : Json) : Report :=
  let error := UserError.ofTrouble (.text "REQUEST_TIMEOUT") .null .waitedTooLong
  { ending := .exit 1
    log := [complaint (error.line ++ " (after " ++ timeout.display ++ "s)")] }

/-- The end of a run that got as far as waiting for a result. -/
def Report.ofAwaited (stream : Stream) (timeout : Json) : Awaited → Report
  | .escaped error => .escaped error
  | .late => .timedOut timeout
  | .result (.sent (some id)) => .written stream 0 id
  | .result (.sent none) => {
      ending := .exit 1
      log := [complaint "Verification was not accepted by the provider"] }
  | .result (.confirmed true) => .written stream 0 "approved"
  | .result (.confirmed false) => .written stream 1 "not-approved"

end OneTimeCode.CommandLine
