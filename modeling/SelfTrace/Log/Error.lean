/-!
# Refused log settings

Why a setting of the log is refused, or why the log cannot be opened.
-/

namespace SelfTrace.Log

/-- A failure of setting up the log. -/
inductive LogError where
  | invalidFormat (text : String)
  | invalidZone (text : String)
  | invalidLevel (reason : String)
  | journald (reason : String)
  | alreadyInitialized
  | env (name : String) (cause : LogError)
deriving DecidableEq, Repr

/-- The kind of an error by name. -/
def LogError.name : LogError → String
  | .invalidFormat _ => "InvalidFormat"
  | .invalidZone _ => "InvalidTimeZone"
  | .invalidLevel _ => "InvalidLevel"
  | .journald _ => "JournaldInitFailed"
  | .alreadyInitialized => "AlreadyInitialized"
  | .env _ _ => "Env"

def LogError.message : LogError → String
  | .invalidFormat text => "Invalid log format: " ++ text ++ " (expected: text|json|journald)"
  | .invalidZone text => "Invalid timezone: " ++ text ++ " (expected: utc|local)"
  | .invalidLevel reason => "Invalid log level: " ++ reason
  | .journald reason => "Failed to initialize journald: " ++ reason
  | .alreadyInitialized => "Logger already initialized"
  | .env name cause => name ++ ": " ++ cause.message

end SelfTrace.Log
