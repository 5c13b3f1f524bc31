import OneTimeCode.Text.Basic

/-! # Log entries -/
namespace OneTimeCode

inductive Severity where
  | debug | info | warning | error | critical
deriving DecidableEq, Repr

namespace Severity

def level : Severity → Int
  | debug => 10
  | info => 20
  | warning => 30
  | error => 40
  | critical => 50

def name : Severity → Text
  | debug => "DEBUG"
  | info => "INFO"
  | warning => "WARNING"
  | error => "ERROR"
  | critical => "CRITICAL"

end Severity

/-- A message of some severity from the part of the program that calls itself `source`. -/
structure LogEntry where
  severity : Severity
  source : Text
  message : Text
deriving DecidableEq

/-- An entry in one line. -/
def LogEntry.line (entry : LogEntry) : Text :=
  entry.severity.name ++ " " ++ entry.source ++ ": " ++ entry.message

end OneTimeCode
