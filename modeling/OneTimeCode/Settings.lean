import OneTimeCode.Json.Kind
import OneTimeCode.Text.Blank

/-!
# Settings of the client

The account and service identifiers, the origin of the provider and the limits of the transport.
The identifiers are trimmed and not empty, the origin is a web address without slashes at its end,
and the limits are numbers of any kind within their bounds. All else stays as it was given.
-/
namespace OneTimeCode
open Text

def defaultOrigin : Text := "https://verify.twilio.com"

/-- The identifiers that must be given. -/
inductive Identifier where
  | account | token | service
deriving DecidableEq, Repr

namespace Identifier

def all : List Identifier := [account, token, service]

def name : Identifier → Text
  | account => "account_id"
  | token => "account_token"
  | service => "verify_service_sid"

def variableName : Identifier → Text
  | account => "SMSVERIFY_ACCOUNT_ID"
  | token => "SMSVERIFY_ACCOUNT_TOKEN"
  | service => "SMSVERIFY_SERVICE_SID"

end Identifier

inductive Limit where
  | timeout | retries | workers
deriving DecidableEq, Repr

namespace Limit

def all : List Limit := [timeout, retries, workers]

def name : Limit → Text
  | timeout => "request_timeout_s"
  | retries => "retries"
  | workers => "max_workers"

def variableName : Limit → Text
  | timeout => "SMSVERIFY_REQUEST_TIMEOUT_S"
  | retries => "SMSVERIFY_RETRIES"
  | workers => "SMSVERIFY_MAX_WORKERS"

def default : Limit → Int
  | timeout => 10
  | retries => 2
  | workers => 8

/-- Whether a number is too low for the limit. -/
def refuses? : Limit → Json → Option Bool
  | retries, given => given.isNegative?
  | _, given => given.isZeroOrNegative?

/-- What is said of a number that is too low. -/
def demand (limit : Limit) : Text :=
  let bound : Text := match limit with
    | retries => "must be >= 0"
    | _ => "must be positive"
  "VerifyConfig." ++ limit.name ++ " " ++ bound

end Limit

inductive SettingsError where
  | blankIdentifier (identifier : Identifier)
  | noWebAddress (given : Json)
  | tooLow (limit : Limit)
  | missingVariables (identifiers : List Identifier)
  | malformedNumber (limit : Limit) (given : Text)
  | unknownName (name : Text)
  | noIdentifier (identifier : Identifier)
  | mismatch (reason : Mismatch)

namespace SettingsError

def message : SettingsError → Text
  | blankIdentifier identifier =>
    "VerifyConfig." ++ identifier.name ++ " must be a non-empty string"
  | noWebAddress given => "VerifyConfig.base_uri must be an http(s) URL, got " ++ given.literal
  | tooLow limit => limit.demand
  | missingVariables identifiers =>
    "Missing environment variables: " ++ join ", " (identifiers.map Identifier.variableName)
  | malformedNumber limit given =>
    limit.variableName ++ " must be an integer, got " ++ quoted given
  | unknownName name => "there is no setting " ++ quoted name
  | noIdentifier identifier => identifier.name ++ " is not given"
  | mismatch reason => reason.message

end SettingsError

/-- Settings as given, not yet checked. -/
structure Draft where
  account : Json
  token : Json
  service : Json
  appHash : Json := .text []
  friendlyName : Json := .text []
  origin : Json := .text defaultOrigin
  timeout : Json := .int (Limit.default .timeout)
  retries : Json := .int (Limit.default .retries)
  workers : Json := .int (Limit.default .workers)

structure Settings where
  account : Text
  token : Text
  service : Text
  appHash : Json
  friendlyName : Json
  origin : Text
  timeout : Json
  retries : Json
  workers : Json

namespace Settings

def readIdentifier (identifier : Identifier) (given : Json) : Except SettingsError Text :=
  let id := trim given.textOrEmpty
  if id.isEmpty then .error (.blankIdentifier identifier) else .ok id

def webSchemes : List Text := ["http://", "https://"]

def readOrigin (given : Json) : Except SettingsError Text :=
  let origin := dropTrailing (· = '/') (trim given.textOrEmpty)
  if webSchemes.any (·.isPrefixOf origin) then .ok origin else .error (.noWebAddress given)

def checkLimit (limit : Limit) (given : Json) : Except SettingsError Json :=
  match limit.refuses? given with
  | some false => .ok given
  | some true => .error (.tooLow limit)
  | none => .error (.mismatch .otherKind)

/-- Settings from a draft; of several faults the first in the order of the fields is reported. -/
def ofDraft (draft : Draft) : Except SettingsError Settings := do
  let account ← readIdentifier .account draft.account
  let token ← readIdentifier .token draft.token
  let service ← readIdentifier .service draft.service
  let origin ← readOrigin draft.origin
  let timeout ← checkLimit .timeout draft.timeout
  let retries ← checkLimit .retries draft.retries
  let workers ← checkLimit .workers draft.workers
  pure {
    account, token, service, origin, timeout, retries, workers
    appHash := draft.appHash
    friendlyName := draft.friendlyName }

/-- Where verifications are created. -/
def verificationsUrl (s : Settings) : Text :=
  s.origin ++ "/v2/Services/" ++ s.service ++ "/Verifications"

end Settings
end OneTimeCode
