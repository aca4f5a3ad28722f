/-!
# Passthrough — messages for the log

What a program says about its work on the side.  Nothing depends on a message; their order and wording
are part of the behaviour nevertheless.
-/

namespace Passthrough

/-- How important a message is. -/
inductive Severity where
  | error
  | warning
  /-- Something a user wants to know. -/
  | info
  /-- Something a developer wants to know. -/
  | debug
deriving DecidableEq

def Severity.label : Severity → String
  | .error => "ERROR"
  | .warning => "WARN"
  | .info => "INFO"
  | .debug => "DEBUG"

/-- A message for the log. -/
structure Message where
  severity : Severity
  text : String
deriving DecidableEq

def Message.line (m : Message) : String := m.severity.label ++ " " ++ m.text

end Passthrough
