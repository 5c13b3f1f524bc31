import OneTimeCode.CommandLine.Word
import OneTimeCode.Number.Decimal
import OneTimeCode.Workflow

/-!
# Arguments of the command

General options stand in front of the command's name, the options of the command behind it, before
or after its only argument. Of an option given twice the last value counts. The divider glued to an
option gives it an empty list of values. What is left over at the end is an error, but only after
everything else has been read.
-/
namespace OneTimeCode.CommandLine

/-- What to do; a value that was not given is null. -/
inductive Command where
  | send (destination : Text) (code channel clientType languages : Json)
  | approve (id : Text) (agent context : Json)

/-- Whether to use the offline provider, how many seconds to wait for a result, and what to do. -/
structure Arguments where
  mock : Bool
  timeout : Json
  command : Command

/-- The value of an option, unless it is the divider. -/
def gluedValue? (value : Text) : Option Text := if value = divider then none else some value

def helpOptions : Named OptionName := [("-h", .help), ("--help", .help)]

def generalOptions : Named OptionName :=
  helpOptions ++ ([("--mock", .mock), ("--timeout", .timeout)] : Named OptionName)

def sendOptions : Named OptionName :=
  helpOptions ++ ([("--code", .code), ("--channel", .channel), ("--client-type", .clientType),
    ("--accept-language", .languages)] : Named OptionName)

def approveOptions : Named OptionName :=
  helpOptions ++ ([("--user-agent", .agent), ("--context", .context)] : Named OptionName)

/-- What the general options say, and whether a word was left over. -/
structure General where
  mock : Bool := false
  timeout : Json := .float (.finite false (30 * Binary64.stepsPerUnit))
  leftover : Bool := false

def readTimeout (value : Option Text) : Except Exit Json :=
  match value with
  | none => .ok (.list [])
  | some t =>
    match Binary64.read? t with
    | some seconds => .ok (.float seconds)
    | none => .error .usage

def General.withTimeout (general : General) (value : Option Text) : Except Exit General :=
  (readTimeout value).map fun timeout => { general with timeout }

/-- The general options in front of the first argument, and the texts from there on. -/
def readGeneral (general : General) : List (Text × Word) → Except Exit (General × List Text)
  | [] => .error .usage
  | (command, .argument _) :: rest => .ok (general, command :: rest.map (·.1))
  | (_, .divider) :: _ => .error .usage
  | (_, .cluster tail) :: _ => .error (clusterExit tail)
  | (_, .unknown) :: rest => readGeneral { general with leftover := true } rest
  | (_, .option .help none) :: _ => .error .help
  | (_, .option .mock none) :: rest => readGeneral { general with mock := true } rest
  | (_, .option .timeout (some value)) :: rest => do
    readGeneral (← general.withTimeout (gluedValue? value)) rest
  | (_, .option .timeout none) :: (_, .argument value) :: rest => do
    readGeneral (← general.withTimeout (some value)) rest
  | (_, .option ..) :: _ => .error .usage

/-- What the words behind a command's name say: its argument, the values of its options, the latest
first, and whether a word was left over. -/
structure Details where
  argument : Option Text := none
  values : List (OptionName × Json) := []
  leftover : Bool := false

namespace Details

/-- The value of an option, or the default. -/
def value (details : Details) (name : OptionName) (default : Json := .null) : Json :=
  (Named.get? name details.values).getD default

/-- The first argument is the command's, any other is left over. -/
def withArgument (details : Details) (text : Text) : Details :=
  match details.argument with
  | none => { details with argument := some text }
  | some _ => { details with leftover := true }

/-- Whether an option accepts a value: a channel has to be known. -/
def accepts (name : OptionName) (value : Text) : Bool :=
  name ≠ .channel || (Channel.ofName? value).isSome

def withValue (details : Details) (name : OptionName) (value : Option Text) :
    Except Exit Details :=
  if name.takesValue && value.all (accepts name) then
    .ok { details with values := (name, value.elim (.list []) .text) :: details.values }
  else .error .usage

/-- The divider next to the command's argument is dropped with it. -/
def read (details : Details) : List Word → Except Exit Details
  | [] => .ok details
  | .argument text :: .divider :: rest => (details.withArgument text).read rest
  | .argument text :: rest => (details.withArgument text).read rest
  | .divider :: .argument text :: rest => (details.withArgument text).read rest
  | .divider :: rest => { details with leftover := true }.read rest
  | .cluster tail :: _ => .error (clusterExit tail)
  | .unknown :: rest => { details with leftover := true }.read rest
  | .option name (some value) :: rest => do
    (← details.withValue name (gluedValue? value)).read rest
  | .option .help none :: _ => .error .help
  | .option name none :: .argument value :: rest => do
    (← details.withValue name (some value)).read rest
  | .option _ none :: _ => .error .usage

end Details

def details (options : Named OptionName) (words : List Text) : Except Exit (Text × Details) := do
  let read ← readWords options words
  let details ← Details.read {} (read.map (·.2))
  match details.argument with
  | some text => pure (text, details)
  | none => throw .usage

def sendCommand (destination : Text) (details : Details) : Command :=
  .send destination (details.value .code) (details.value .channel (.text Channel.sms.name))
    (details.value .clientType) (details.value .languages (.text []))

def approveCommand (id : Text) (details : Details) : Command :=
  .approve id (details.value .agent) (details.value .context (.text registration))

/-- The command of a name, and whether a word was left over. -/
def readCommand (name : Text) (words : List Text) : Except Exit (Command × Bool) :=
  if name = "send" then do
    let (destination, found) ← details sendOptions words
    pure (sendCommand destination found, found.leftover)
  else if name = "approve" then do
    let (id, found) ← details approveOptions words
    pure (approveCommand id found, found.leftover)
  else .error .usage

/-- The arguments in the words behind the program's name. -/
def Arguments.read (words : List Text) : Except Exit Arguments := do
  let (general, rest) ← readGeneral {} (← readWords generalOptions words)
  match rest with
  | [] => throw .usage
  | name :: others =>
    let (command, leftover) ← readCommand name others
    if general.leftover || leftover then throw .usage
    else pure ⟨general.mock, general.timeout, command⟩

end OneTimeCode.CommandLine
