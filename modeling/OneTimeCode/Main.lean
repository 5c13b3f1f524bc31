import OneTimeCode.CommandLine.Run
import Std.Time.Zoned

/-!
# The command

Reads the environment and a random number, runs the command line and writes what the run reports.
No connection is configured here, so every post of the remote provider fails as unreachable.
-/
namespace OneTimeCode.CommandLine

/-- The variables that a run looks at. -/
def variableNames : List Text :=
  Identifier.all.map Identifier.variableName ++ Limit.all.map Limit.variableName
    ++ [Settings.appHashVariable, Settings.friendlyNameVariable, Settings.originVariable,
      Log.levelVariable, Log.debugVariable]

/-- The outcome of every post while no connection is configured. -/
def unconnected : Outcome := .fault .connection "no connection configured"

def usage : Text := "usage: [-h] [--mock] [--timeout TIMEOUT] \x7bsend,approve\x7d ..."

def clock (hour minute second : Nat) : Text :=
  let two (n : Nat) : Text := Text.padLeft '0' 2 (Integer.natText n)
  Text.join ":" [two hour, two minute, two second]

def readEnvironment : IO Environment := do
  let found ← variableNames.mapM fun name => do
    pure ((← IO.getEnv name.string).map fun value => (name, Text.ofString value))
  pure (found.filterMap id)

def timeOfDay : IO Text := do
  let time ← Std.Time.PlainTime.now
  pure (clock time.hour.val.toNat time.minute.val.toNat time.second.val.toNat)

def writeError (line : Text) : IO Unit := IO.eprintln line.string

/-- Writes what a run reports and gives its exit code. -/
def Report.write (report : Report) : IO UInt32 := do
  let time ← timeOfDay
  for entry in report.log do
    writeError (time ++ " " ++ entry.line)
  IO.print report.output.string
  match report.ending with
  | .exit code => pure code.toUInt32
  | .escaped error => do
    writeError error.message
    pure 1
  | .usage .help => do
    IO.println usage.string
    pure 0
  | .usage .usage => do
    writeError usage
    pure 2

end OneTimeCode.CommandLine

open OneTimeCode CommandLine in
def main (words : List String) : IO UInt32 := do
  let environment ← readEnvironment
  let random ← IO.rand 0 (codeCount - 1)
  let around : Surroundings := { environment, script := [unconnected], random, stalled := false }
  (run (words.map Text.ofString) around).write
