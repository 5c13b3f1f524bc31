import OneTimeCode.Encoding.Form
import OneTimeCode.Json.Kind
import OneTimeCode.Log
import OneTimeCode.Transport.Outcome

/-!
# Delivery

A form is posted up to `retries + 1` times, as long as the connection fails. The first response or
other failure decides. What a caller gives goes out as it is; only the fields are encoded.
-/
namespace OneTimeCode
open Text

/-- Seconds for one attempt, and how many attempts may follow the first. -/
structure Policy where
  timeout : Json
  retries : Json

/-- A form to be sent. A timeout that counts as missing is none. -/
structure Letter where
  url : Json
  fields : Named Json
  headers : Named Json
  timeout : Json := .null

/-- What goes out: the encoded form with all headers in the order of their names. -/
structure Post where
  url : Json
  body : Text
  headers : Named Json
  timeout : Json

def formContentType : Text := "application/x-www-form-urlencoded"

def commonHeaders : Named Json :=
  [("Accept", .text "application/json"), ("Content-Type", .text formContentType)]

def Policy.timeoutFor (policy : Policy) (given : Json) : Json :=
  if given.isMissing then policy.timeout else given

/-- The fields as they are encoded, every value by its text. -/
def Letter.form (letter : Letter) : Form.Fields :=
  letter.fields.map fun field => (field.1, field.2.display)

/-- The headers of a letter; its own overwrite the common ones. -/
def Letter.allHeaders (letter : Letter) : Named Json :=
  (Named.ofList (commonHeaders ++ letter.headers)).mergeSort fun a b => !precedes b.1 a.1

/-- The post of a letter, if its fields can be encoded. -/
def Policy.post (policy : Policy) (letter : Letter) : Except Unencodable Post :=
  (Form.encode letter.form).map fun body =>
    ⟨letter.url, body, letter.allHeaders, policy.timeoutFor letter.timeout⟩

/-- Why a letter got no response. -/
inductive TransportError where
  | unreachable (url : Text)
  | rejected (url reason : Text)
  | unattempted (url : Text)
  | uncountable
  | unencodable (fault : Unencodable)
  | defect (kind : Defect) (reason : Text)
  | shutDown
  | withdrawn
deriving DecidableEq

namespace TransportError

def message : TransportError → Text
  | unreachable url => "Timeout contacting " ++ url
  | rejected _ reason => reason
  | unattempted _ => "Unexpected request failure"
  | uncountable => "'float' object cannot be interpreted as an integer"
  | unencodable fault => fault.message
  | defect _ reason => reason
  | shutDown => "cannot schedule new futures after shutdown"
  | withdrawn => []

/-- The request in question, for errors of the transport itself. -/
def context : TransportError → Option Text
  | unreachable url | rejected url _ | unattempted url => some ("POST " ++ url)
  | _ => none

end TransportError

/-- What came of a letter: the answer, the posts made, and the script for later ones. -/
structure Delivery where
  answer : Except TransportError Response
  posts : List Post
  log : List LogEntry
  script : Script

namespace Delivery

def source : Text := "smsverify.adapters.http_client"

/-- A letter that led to no post. -/
def failed (error : TransportError) (script : Script) : Delivery := ⟨.error error, [], [], script⟩

def attemptFailed (post : Post) (number total : Nat) (reason : Text) : LogEntry :=
  ⟨.debug, source, "POST " ++ post.url.display ++ " attempt " ++ Integer.natText number ++ "/"
    ++ Integer.natText total ++ " failed: " ++ reason⟩

/-- Makes the last `left` of `total` attempts. -/
def attempts (post : Post) (total : Nat) : (left : Nat) → Script → Delivery
  | 0, script => failed (.unreachable post.url.display) script
  | left + 1, script =>
    let (outcome, rest) := script.play
    match outcome with
    | .response response => ⟨.ok response, [post], [], rest⟩
    | .fault fault reason =>
      match fault.family with
      | .rejection => ⟨.error (.rejected post.url.display reason), [post], [], rest⟩
      | .defect kind => ⟨.error (.defect kind reason), [post], [], rest⟩
      | .connectivity =>
        let later := attempts post total left rest
        { later with
          posts := post :: later.posts
          log := attemptFailed post (total - left) total reason :: later.log }

end Delivery

/-- How many attempts there are, if the retries are a whole number. -/
def Policy.attempts? (policy : Policy) : Option Nat :=
  policy.retries.whole?.map fun retries => (retries + 1).toNat

def Policy.attempt (policy : Policy) (post : Post) (script : Script) : Delivery :=
  match policy.attempts? with
  | none => .failed .uncountable script
  | some 0 => .failed (.unattempted post.url.display) script
  | some attempts => Delivery.attempts post attempts attempts script

def Policy.deliver (policy : Policy) (letter : Letter) (script : Script) : Delivery :=
  match policy.post letter with
  | .error fault => .failed (.unencodable fault) script
  | .ok post => policy.attempt post script

end OneTimeCode
