import OneTimeCode.Encoding.Escape
import OneTimeCode.Settings.Environment

/-!
# The environment of a process

A process keeps its variables as bytes that end at the first zero. Values reach it as texts, and
come back as the texts of their bytes.
-/
namespace OneTimeCode

/-- Why a value cannot be kept in the environment of a process. -/
inductive ProcessError where
  | noText
  | unencodable (fault : Unencodable)
  | zeroByte

def ProcessError.message : ProcessError → Text
  | noText => "the value is no text"
  | unencodable fault => fault.message
  | zeroByte => "embedded null byte"

namespace Environment

/-- The text of a value as a process has it. -/
def processText (value : Json) : Except ProcessError Text :=
  match value.text? with
  | none => .error .noText
  | some t =>
    match Escape.encode t with
    | .error fault => .error (.unencodable fault)
    | .ok bytes => if bytes.contains 0 then .error .zeroByte else .ok (Escape.decode bytes)

/-- The environment of a process that was given these values. -/
def ofValues (values : Named Json) : Except ProcessError Environment :=
  values.mapM fun entry => (processText entry.2).map (entry.1, ·)

end Environment
end OneTimeCode
