import OneTimeCode.Settings

/-!
# Settings by name

A caller may give the settings as named values. The identifiers must be among them, all else has a
default, and a name that no setting has is refused.
-/
namespace OneTimeCode

namespace Draft

def appHashKey : Text := "android_app_hash"

def friendlyNameKey : Text := "verify_service_friendly_name"

def originKey : Text := "base_uri"

def names : List Text :=
  Identifier.all.map Identifier.name ++ [appHashKey, friendlyNameKey, originKey]
    ++ Limit.all.map Limit.name

/-- The value of an identifier, which has no default. -/
def identifierIn (values : Named Json) (identifier : Identifier) : Except SettingsError Json :=
  match values.get? identifier.name with
  | some value => .ok value
  | none => .error (.noIdentifier identifier)

def limitIn (values : Named Json) (limit : Limit) : Json :=
  (values.get? limit.name).getD (.int limit.default)

def ofNamed (values : Named Json) : Except SettingsError Draft := do
  if let some entry := values.find? (!names.contains ·.1) then throw (.unknownName entry.1)
  let account ← identifierIn values .account
  let token ← identifierIn values .token
  let service ← identifierIn values .service
  pure {
    account, token, service
    appHash := (values.get? appHashKey).getD (.text [])
    friendlyName := (values.get? friendlyNameKey).getD (.text [])
    origin := (values.get? originKey).getD (.text defaultOrigin)
    timeout := limitIn values .timeout
    retries := limitIn values .retries
    workers := limitIn values .workers }

end Draft

def Settings.ofNamed (values : Named Json) : Except SettingsError Settings :=
  Draft.ofNamed values >>= Settings.ofDraft

end OneTimeCode
