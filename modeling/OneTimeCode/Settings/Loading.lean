import OneTimeCode.Settings
import OneTimeCode.Settings.Environment
import OneTimeCode.Number.Integer

/-!
# Settings from the environment

Every setting has a variable, and a blank variable is as good as an absent one. Missing identifiers
are reported together and before any other fault.
-/
namespace OneTimeCode.Settings
open Text

def appHashVariable : Text := "SMSVERIFY_ANDROID_APP_HASH"

def friendlyNameVariable : Text := "SMSVERIFY_FRIENDLY_NAME"

def originVariable : Text := "SMSVERIFY_BASE_URI"

/-- The trimmed text of a variable. -/
def trimmed (values : Named Json) (name : Text) : Except SettingsError Text :=
  (values.trimmed name).mapError .mismatch

def isBlank (values : Named Json) (identifier : Identifier) : Except SettingsError Bool :=
  (trimmed values identifier.variableName).map List.isEmpty

def missing (values : Named Json) : Except SettingsError (List Identifier) :=
  Identifier.all.filterM (isBlank values)

def readLimit (values : Named Json) (limit : Limit) : Except SettingsError Json := do
  let given ← trimmed values limit.variableName
  if given.isEmpty then pure (.int limit.default)
  else match Integer.read given with
    | .ok n => pure (.int n)
    | .error _ => throw (.malformedNumber limit given)

def draftOf (values : Named Json) : Except SettingsError Draft := do
  let identifier (i : Identifier) : Json := (values.get? i.variableName).getD .null
  let appHash ← trimmed values appHashVariable
  let friendlyName ← trimmed values friendlyNameVariable
  let origin ← trimmed values originVariable
  pure {
    account := identifier .account
    token := identifier .token
    service := identifier .service
    appHash := .text appHash
    friendlyName := .text friendlyName
    origin := .text (if origin.isEmpty then defaultOrigin else origin)
    timeout := ← readLimit values .timeout
    retries := ← readLimit values .retries
    workers := ← readLimit values .workers }

/-- Settings from variables as values; only texts will do, and the first other value is reported
where it would be read. -/
def ofVariables (values : Named Json) : Except SettingsError Settings := do
  match ← missing values with
  | [] => draftOf values >>= ofDraft
  | identifiers => throw (.missingVariables identifiers)

def load (environment : Environment) : Except SettingsError Settings :=
  ofVariables environment.values

end OneTimeCode.Settings
