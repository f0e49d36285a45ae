/-!
# Refused input

Why a text or a configuration is refused.
-/

namespace SelfTrace

/-- A text that is no process id or names no state, or a configuration that cannot be used. -/
inductive InputError where
  | invalidPid (text : String)
  | unknownState (text : String)
  | invalidConfig (reason : String)
deriving DecidableEq, Repr

/-- The kind of an error by name. -/
def InputError.name : InputError → String
  | .invalidPid _ => "InvalidPid"
  | .unknownState _ => "UnknownState"
  | .invalidConfig _ => "InvalidConfig"

/-- The error in words. -/
def InputError.message : InputError → String
  | .invalidPid text => "invalid process id: " ++ text
  | .unknownState text => "unknown agent state: " ++ text
  | .invalidConfig reason => "invalid configuration: " ++ reason

end SelfTrace
