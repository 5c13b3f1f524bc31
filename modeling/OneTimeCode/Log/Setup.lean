import OneTimeCode.Log
import OneTimeCode.Number.Decimal
import OneTimeCode.Settings.Environment
import OneTimeCode.Text.Case

/-!
# Setting up the log

Which level the log has: the variable for the level decides if it is set, then the debug flag, then
the caller's default; a level of zero from the environment decides nothing. A level is a number in
digits or a name in any case, and any other text leaves the choice to a fallback. The connection
pool is kept at warnings unless the level is debug or below.
-/
namespace OneTimeCode.Log
open Text

def levelVariable : Text := "SMSVERIFY_LOG_LEVEL"

def debugVariable : Text := "SMSVERIFY_DEBUG"

/-- The levels that have a name. -/
def levelNames : List (Text × Int) :=
  [("CRITICAL", 50), ("FATAL", 50), ("ERROR", 40), ("WARNING", 30), ("WARN", 30), ("INFO", 20),
    ("DEBUG", 10), ("NOTSET", 0)]

/-- The upper case of a character as far as it is a letter of a level name. -/
def upperLetter (c : CodePoint) : CodePoint :=
  if c.toNat = 0x131 then 'I' else if c.toNat = 0x17F then 'S' else c.map Char.toUpper

def levelNamed? (name : Text) : Option Int := Named.get? (name.map upperLetter) levelNames

/-- The level that a text names, or the fallback. -/
def readLevel (t : Text) (fallback : Int) : Except Integer.ReadError Int :=
  let name := trim t
  if name.isEmpty then .ok fallback
  else if name.all isDigit then Integer.read name
  else .ok ((levelNamed? name).getD fallback)

/-- A level given by a caller. -/
inductive LevelChoice where
  | number (level : Int)
  | named (name : Text)

/-- Why a value is no choice of a level. -/
inductive ChoiceError where
  | mismatch (reason : Mismatch)
  | noWholePart (reason : Binary64.NoWholePart)
deriving DecidableEq, Repr

def ChoiceError.message : ChoiceError → Text
  | mismatch reason => reason.message
  | noWholePart reason => reason.message

/-- The choice that a value makes: a text by its name, a number by its whole part. -/
def LevelChoice.ofJson : Json → Except ChoiceError LevelChoice
  | .text t => .ok (.named t)
  | .float x => (x.wholePart.map .number).mapError .noWholePart
  | given => (given.requireWhole.map .number).mapError .mismatch

def LevelChoice.level : LevelChoice → Except Integer.ReadError Int
  | number level => .ok level
  | named name => readLevel name Severity.info.level

/-- Texts that switch a flag on. -/
def flagWords : List Text := ["1", "true", "yes", "on"]

def isFlagOn (environment : Environment) (flag : Text) : Bool :=
  flagWords.contains (lower (environment.trimmed flag))

/-- The level that the environment asks for. -/
def environmentLevel (environment : Environment) : Except Integer.ReadError (Option Int) :=
  match Named.get? levelVariable environment with
  | some (c :: rest) => (readLevel (c :: rest) Severity.info.level).map some
  | _ => .ok (if isFlagOn environment debugVariable then some Severity.debug.level else none)

/-- The level in force: that of the environment unless it is absent or zero, else the default. -/
def effectiveLevel (environment : Environment) (choice : LevelChoice) :
    Except Integer.ReadError Int := do
  let fallback ← choice.level
  let asked ← environmentLevel environment
  match asked with
  | some level => pure (if level = 0 then fallback else level)
  | none => pure fallback

inductive Handler where
  | silent
  | writing
deriving DecidableEq

/-- The log's level, the level of the connection pool's messages, and the handlers of entries. -/
structure State where
  level : Int
  poolLevel : Int
  handlers : List Handler
deriving DecidableEq

/-- A log that nobody has set up shows warnings and worse. -/
def State.initial (handlers : List Handler) : State := ⟨Severity.warning.level, 0, handlers⟩

/-- Installs a handler if there is none, and sets the levels. -/
def State.apply (state : State) (level : Int) : State where
  level := level
  poolLevel := if level ≤ Severity.debug.level then level else Severity.warning.level
  handlers := if state.handlers.isEmpty then [.writing] else state.handlers

/-- The level in force and the log set up for it; an unreadable level changes nothing. -/
def State.configure (state : State) (environment : Environment) (choice : LevelChoice) :
    Except Integer.ReadError (Int × State) :=
  (effectiveLevel environment choice).map fun level => (level, state.apply level)

/-! ## Calls, step by step -/

/-- A call that is to set up the log: the environment that it finds and the value that it is given
for a level. -/
structure Setup where
  environment : Environment
  given : Json := .int Severity.info.level

/-- Why a call does not set up the log. -/
inductive SetupError where
  | choice (error : ChoiceError)
  | level (error : Integer.ReadError)

/-- Lets entries be written, from a level on, if nothing handles them yet. -/
def State.handle (level : Int) (state : State) : State :=
  if state.handlers.isEmpty then { state with level, handlers := [.writing] } else state

def State.setLevel (level : Int) (state : State) : State := { state with level }

def State.setPoolLevel (level : Int) (state : State) : State where
  level := state.level
  poolLevel := if level ≤ Severity.debug.level then level else Severity.warning.level
  handlers := state.handlers

/-- The steps of a call. What the steps before a fault have changed stays changed. -/
def Setup.steps (setup : Setup) : ExceptT SetupError (StateM State) Int := do
  let choice ← ofExcept ((LevelChoice.ofJson setup.given).mapError .choice)
  let level ← ofExcept ((effectiveLevel setup.environment choice).mapError .level)
  modify (State.handle level)
  modify (State.setLevel level)
  modify (State.setPoolLevel level)
  return level

/-- What a call gives, and the log that it leaves. -/
def State.setUp (state : State) (setup : Setup) : Except SetupError Int × State :=
  setup.steps.run.run state

/-! ## Entries -/

def State.shows (state : State) (entry : LogEntry) : Bool := state.level ≤ entry.severity.level

/-- The lines that an entry leads to at a time of day. Without any handler the bare messages of
warnings and worse are written. -/
def State.lines (state : State) (time : Text) (entry : LogEntry) : List Text :=
  if !state.shows entry then []
  else if state.handlers.isEmpty then
    if Severity.warning.level ≤ entry.severity.level then [entry.message] else []
  else (state.handlers.filter (· = .writing)).map fun _ => time ++ " " ++ entry.line

end OneTimeCode.Log
