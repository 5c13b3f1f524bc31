import OneTimeCode.Named
import OneTimeCode.Text.Digit

/-!
# Words of a command line

Each word is an option or an argument. An option may be shortened as long as only one option starts
with it, and may carry its value behind an equals sign. Negative numbers, words with a space and all
words behind the divider `--` are arguments.
-/
namespace OneTimeCode.CommandLine
open Text

/-- How a command line that asks for nothing to be done ends the program. -/
inductive Exit where
  | help
  | usage
deriving DecidableEq, Repr

def Exit.code : Exit → Nat
  | help => 0
  | usage => 2

inductive OptionName where
  | help | mock | timeout | code | channel | clientType | languages | agent | context
deriving DecidableEq, Repr

/-- All other options are flags. -/
def OptionName.takesValue : OptionName → Bool
  | help | mock => false
  | _ => true

inductive Word where
  | argument (text : Text)
  | divider
  | option (name : OptionName) (value : Option Text)
  /-- Characters glued to the single letter that asks for help, directly or by an equals sign. -/
  | cluster (tail : Text)
  | unknown

def divider : Text := "--"

/-- What characters glued to the single letter for help amount to: the same letter may be repeated,
and there is no other. -/
def clusterExit (tail : Text) : Exit :=
  if !tail.isEmpty && tail.all (· = 'h') then .help else .usage

/-- A minus and digits with at most one point, after which digits follow; a line end may close it. -/
def isNegativeNumber : Text → Bool
  | .char '-' :: rest =>
    let body := if rest.getLast? = some (.char '\n') then rest.dropLast else rest
    let whole := before '.' body
    let fraction := after '.' body
    whole.all isDecimalDigit &&
      if body.contains '.' then !fraction.isEmpty && fraction.all isDecimalDigit
      else !whole.isEmpty
  | _ => false

/-- A word that names no option. -/
def plainWord (word : Text) : Word :=
  if isNegativeNumber word || word.contains ' ' then .argument word else .unknown

/-- The value behind the first equals sign. -/
def valueIn? (word : Text) : Option Text :=
  if word.contains '=' then some (after '=' word) else none

/-- A word that starts with two hyphens and is no option in full. -/
def shortenedWord (options : Named OptionName) (word : Text) : Except Exit Word :=
  match options.filter fun o => (before '=' word).isPrefixOf o.1 with
  | [] => .ok (plainWord word)
  | [o] => .ok (.option o.2 (valueIn? word))
  | _ => .error .usage

def helpLetter : Text := "-h"

/-- Reads one word; a shortened option that fits several options is an error. -/
def readWord (options : Named OptionName) (word : Text) : Except Exit Word :=
  if word.head? ≠ some (.char '-') then .ok (.argument word) else
  match options.get? word with
  | some name => .ok (.option name none)
  | none =>
    if word = "-" then .ok (.argument word) else
    match (valueIn? word).bind fun value => (options.get? (before '=' word)).map (·, value) with
    | some (name, value) =>
      if before '=' word = helpLetter then .ok (.cluster value) else .ok (.option name (some value))
    | none =>
      if divider.isPrefixOf word then shortenedWord options word
      else if helpLetter.isPrefixOf word then .ok (.cluster (word.drop helpLetter.length))
      else .ok (plainWord word)

/-- The words of a command line, each beside its text. -/
def readWords (options : Named OptionName) : List Text → Except Exit (List (Text × Word))
  | [] => .ok []
  | word :: rest =>
    if word = divider then .ok ((word, .divider) :: rest.map fun w => (w, .argument w))
    else do
      let read ← readWord options word
      let others ← readWords options rest
      pure ((word, read) :: others)

end OneTimeCode.CommandLine
