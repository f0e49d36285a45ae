import SelfTrace.Environment
import SelfTrace.Files.Failure
import SelfTrace.Text.Quoted
import SelfTrace.Text.Utf8

/-!
# Why an agent is not attached

Each stage of the start of an agent has its own failures; `AttachError` is the failure of the
whole. Paths are shown as text, octets that are none as U+FFFD.
-/

namespace SelfTrace

/-! ## Stages -/

/-- The tool was not located. -/
inductive LocateError where
  | notFound (binary : String)
  | notExecutable (path : Bytes)
deriving DecidableEq, Repr

/-- The rule script was not written. -/
inductive ProvisionError where
  | unknownResource (resource : String)
  | read (resource : String) (cause : Failure)
  | write (path : Bytes) (cause : Failure)
  | temporary (dir : Bytes) (reason : String)
deriving DecidableEq, Repr

/-- The tool was not started, or did not stay. -/
inductive DriverError where
  | spawn (agent : Bytes) (cause : Failure)
  | exited (status : String)
  | invalidConfig (reason : String)
deriving DecidableEq, Repr

/-- The monitors were not registered. -/
inductive RegistryError where
  | invalidNamespace (text : String)
  | alreadyRegistered (name : String)
  | backend (reason : String)
deriving DecidableEq, Repr

/-- The kinds of errors by name. -/
def LocateError.name : LocateError → String
  | .notFound _ => "NotFound"
  | .notExecutable _ => "NotExecutable"

def ProvisionError.name : ProvisionError → String
  | .unknownResource _ => "UnknownResource"
  | .read _ _ => "Read"
  | .write _ _ | .temporary _ _ => "Write"

def DriverError.name : DriverError → String
  | .spawn _ _ => "Spawn"
  | .exited _ => "Exited"
  | .invalidConfig _ => "InvalidConfig"

def RegistryError.name : RegistryError → String
  | .invalidNamespace _ => "InvalidNamespace"
  | .alreadyRegistered _ => "AlreadyRegistered"
  | .backend _ => "Backend"

def LocateError.message : LocateError → String
  | .notFound binary =>
    "'" ++ binary ++ "' was not found on PATH; install it or point " ++ Environment.agentPath ++
      " at it"
  | .notExecutable path => "'" ++ Text.lossyText path ++ "' is not an executable file"

def ProvisionError.message : ProvisionError → String
  | .unknownResource resource => "unknown resource '" ++ resource ++ "'"
  | .read resource cause => "unable to read resource '" ++ resource ++ "': " ++ cause.message
  | .write path cause => "unable to write '" ++ Text.lossyText path ++ "': " ++ cause.message
  | .temporary dir reason => "unable to write '" ++ Text.lossyText dir ++ "': " ++ reason

def DriverError.message : DriverError → String
  | .spawn agent cause => "failed to spawn '" ++ Text.lossyText agent ++ "': " ++ cause.message
  | .exited status => "agent exited during attach (" ++ status ++ ")"
  | .invalidConfig reason => "invalid attach configuration: " ++ reason

def RegistryError.message : RegistryError → String
  | .invalidNamespace text => "invalid namespace '" ++ text ++ "'"
  | .alreadyRegistered name => "monitor '" ++ name ++ "' is already registered"
  | .backend reason => "registry backend error: " ++ reason

/-! ## The start as a whole -/

/-- The stage at which a start failed. -/
inductive AttachErrorKind where
  | unresolved
  | missingCapability
  | provisioning
  | attach
  | registry
deriving DecidableEq, Repr

/-- The kind as a label of logs. -/
def AttachErrorKind.label : AttachErrorKind → String
  | .unresolved => "unresolved"
  | .missingCapability => "missing_capability"
  | .provisioning => "provisioning"
  | .attach => "attach"
  | .registry => "registry"

/-- The kind as it is named in descriptions. -/
def AttachErrorKind.name : AttachErrorKind → String
  | .unresolved => "Unresolved"
  | .missingCapability => "MissingCapability"
  | .provisioning => "Provisioning"
  | .attach => "Attach"
  | .registry => "Registry"

/-- Why a start failed. -/
inductive AttachError where
  | unresolved
  | missingCapability (cause : LocateError)
  | provisioning (cause : ProvisionError)
  | attach (cause : DriverError)
  | registry (cause : RegistryError)
deriving DecidableEq, Repr

namespace AttachError

def kind : AttachError → AttachErrorKind
  | .unresolved => .unresolved
  | .missingCapability _ => .missingCapability
  | .provisioning _ => .provisioning
  | .attach _ => .attach
  | .registry _ => .registry

def message : AttachError → String
  | .unresolved => "unable to determine the current process id"
  | .missingCapability cause => "instrumentation agent not available: " ++ cause.message
  | .provisioning cause => "unable to create debug agent rules file: " ++ cause.message
  | .attach cause => "unable to attach instrumentation agent: " ++ cause.message
  | .registry cause => "unable to register debug monitors: " ++ cause.message

end AttachError

end SelfTrace
