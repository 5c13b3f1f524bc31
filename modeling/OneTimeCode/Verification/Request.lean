import OneTimeCode.Encoding.Base64
import OneTimeCode.Settings
import OneTimeCode.Transport.Delivery
import OneTimeCode.Verification.Call
import OneTimeCode.Verification.Reply

/-!
# Requests to the provider

How calls become letters: which fields they carry, where they go, and how the account shows itself.
A field is the value that the caller gave.
-/
namespace OneTimeCode
open Text

/-- The parts of a request for a code that the provider sees. -/
structure CodeOrder where
  channel : Channel
  destination : Json
  code : Json
  locale : Json
  clientType : Json

/-- The beginning of the types whose apps read messages. -/
def androidMark : Text := "android"

/-- Whether the client's app can read a code out of a message that carries its hash. -/
def readsMessages (clientType : Json) : Except Mismatch Bool :=
  clientType.requireText.map (androidMark.isPrefixOf ·)

namespace CodeOrder

def localeField (order : CodeOrder) : Named Json :=
  if order.locale.isMissing then [] else [("Locale", order.locale)]

def hashField (settings : Settings) (order : CodeOrder) : Except Mismatch (Named Json) :=
  (readsMessages order.clientType).map fun reads =>
    if reads then [("AppHash", settings.appHash)] else []

/-- The fields that every request has. -/
def plainFields (settings : Settings) (order : CodeOrder) : Named Json :=
  [("To", order.destination), ("CustomCode", order.code),
    ("Channel", .text order.channel.wireName), ("CustomFriendlyName", settings.friendlyName)]

def fields (settings : Settings) (order : CodeOrder) : Except Mismatch (Named Json) :=
  (order.hashField settings).map fun hash => order.plainFields settings ++ order.localeField ++ hash

end CodeOrder

/-- What a request may be refused for before anything is sent. -/
inductive RequestError where
  | unsupportedChannel (given : Json)
  | noVerificationId
  | unencodable (fault : Unencodable)
  | mismatch (reason : Mismatch)

namespace RequestError

def message : RequestError → Text
  | unsupportedChannel given => "Unsupported verification channel: " ++ given.literal
  | noVerificationId => "verification_id is required"
  | unencodable fault => fault.message
  | mismatch reason => reason.message

end RequestError

namespace Settings

def policy (s : Settings) : Policy := ⟨s.timeout, s.retries⟩

/-- The account and its token in the basic scheme. -/
def authorization (s : Settings) : Except Unencodable Text :=
  (Utf8.encode (s.account ++ ":" ++ s.token)).map fun bytes => "Basic " ++ Base64.encode bytes

/-- Where the verification of that identifier is approved. -/
def approvalUrl (s : Settings) (id : Text) : Except Unencodable Text :=
  (Percent.encode id).map fun segment => s.verificationsUrl ++ "/" ++ segment

end Settings

/-- A letter from whoever the authorization names. -/
def Letter.authorized (authorization url : Text) (fields : Named Json) : Letter where
  url := .text url
  fields := fields
  headers := [("Authorization", .text authorization)]

namespace Settings

def codeLetter (s : Settings) (authorization : Text) (order : CodeOrder) :
    Except Mismatch Letter :=
  (order.fields s).map (.authorized authorization s.verificationsUrl)

def approvalLetter (s : Settings) (authorization id : Text) : Except Unencodable Letter :=
  (s.approvalUrl id).map fun url =>
    .authorized authorization url [("Status", .text Reply.approved)]

end Settings

/-- The identifier that a confirmation names, trimmed. -/
def ConfirmCall.verificationId (call : ConfirmCall) : Except RequestError Text :=
  let id := trim call.id.textOrEmpty
  if id.isEmpty then .error .noVerificationId else .ok id

/-- The fields of a request for a code by a channel as given; only a value without parts can be
looked up as a channel. -/
def CodeOrder.fieldsGiven (settings : Settings)
    (channel destination code locale clientType : Json) : Except RequestError (Named Json) :=
  match channel.requireScalar, Channel.ofJson? channel with
  | .error reason, _ => .error (.mismatch reason)
  | .ok _, none => .error (.unsupportedChannel channel)
  | .ok _, some known =>
    (fields settings ⟨known, destination, code, locale, clientType⟩).mapError .mismatch

end OneTimeCode
