import SelfTrace.Environment
import SelfTrace.Introspection.Token
import SelfTrace.ProcessId

/-!
# Looking into other processes

An introspector publishes properties of the own process and reads those of other processes. Two
things are held for a time and given back when they go: a publication, which is retracted, and an
attachment, which is detached. `publishing` and `readProperty` hold them for the length of one
action, whatever happens in it.
-/

namespace SelfTrace

/-! ## Errors -/

/-- Why a process could not be looked into. -/
inductive IntrospectError where
  | noSuchProcess (pid : ProcessId)
  | permissionDenied (pid : ProcessId)
  | unsupported (reason : String)
  | os (cause : Failure)
deriving DecidableEq, Repr

namespace IntrospectError

/-- The kind of an error by name. -/
def name : IntrospectError → String
  | .noSuchProcess _ => "NoSuchProcess"
  | .permissionDenied _ => "PermissionDenied"
  | .unsupported _ => "Unsupported"
  | .os _ => "Io"

def message : IntrospectError → String
  | .noSuchProcess pid => "no such process: " ++ pid.text
  | .permissionDenied pid => "permission denied for process " ++ pid.text
  | .unsupported reason => "process introspection is not supported: " ++ reason
  | .os cause => "io error: " ++ cause.message

/-- What a failure of the operating system says about a process. -/
def ofFailure (pid : ProcessId) (cause : Failure) : IntrospectError :=
  if cause.isNotFound then .noSuchProcess pid
  else if cause.isDenied then .permissionDenied pid
  else .os cause

end IntrospectError

/-! ## Introspectors -/

/-- The key of the marker by which a process recognizes itself. -/
def markerKey : String := "perfdbg.resolver.marker"

/-- A way to look into processes, acting on collaborators `σ`; an attached process is known by the
table `τ` of its properties. -/
structure Introspector (σ τ : Type) where
  /-- Publishes a value under a key, for the own process. -/
  publish : String → String → Act σ (Except IntrospectError Unit)
  /-- Withdraws what is published under a key. -/
  retract : String → Act σ Unit
  /-- The processes that may be looked into. -/
  candidates : Act σ (Except IntrospectError (List ProcessId))
  /-- Opens the table of a process. -/
  attach : ProcessId → Act σ (Except IntrospectError τ)
  /-- The value under a key of a table. -/
  get : τ → String → Act σ (Except IntrospectError (Option String))
  /-- Gives a table back: the table as it is from then on, and whether that went well. -/
  detach : τ → Act σ (τ × Except IntrospectError Unit)

variable {ρ σ τ α : Type}

/-- An introspector whose collaborators are a part of a larger state. -/
def Introspector.on (p : Part ρ σ) (i : Introspector σ τ) : Introspector ρ τ where
  publish key value := (i.publish key value).on p
  retract key := (i.retract key).on p
  candidates := i.candidates.on p
  attach pid := (i.attach pid).on p
  get table key := (i.get table key).on p
  detach table := (i.detach table).on p

/-- The part of the program that these events come from. -/
def introspectTarget : String := "perfdbg_core::resolver::introspect"

/-! ## Attachments -/

/-- An attached process. -/
structure Attachment (τ : Type) where
  pid : ProcessId
  table : τ

namespace Attachment

/-- Attaches to a process. -/
def opened (i : Introspector σ τ) (pid : ProcessId) :
    Act σ (Except IntrospectError (Attachment τ)) := do
  match ← i.attach pid with
  | .ok table => return .ok ⟨pid, table⟩
  | .error e => return .error e

/-- The value under a key. -/
def get (i : Introspector σ τ) (a : Attachment τ) (key : String) :
    Act σ (Except IntrospectError (Option String)) := i.get a.table key

/-- Detaches; a failure is only noted. -/
def close (i : Introspector σ τ) (a : Attachment τ) : Act σ Unit := do
  let (_, outcome) ← i.detach a.table
  match outcome with
  | .ok _ => return ()
  | .error e =>
    Act.emit ⟨.trace, introspectTarget, "detach failed: " ++ e.message,
      [("pid", .shown a.pid.text)]⟩

end Attachment

/-- The value under a key of a process; every failure is noted and yields none. -/
def readProperty (i : Introspector σ τ) (pid : ProcessId) (key : String) :
    Act σ (Option String) := do
  match ← Attachment.opened i pid with
  | .error e =>
    Act.emit ⟨.trace, introspectTarget, "skipping candidate: " ++ e.message,
      [("pid", .shown pid.text)]⟩
    return none
  | .ok a =>
    let value ← do
      match ← a.get i key with
      | .ok value => pure value
      | .error e =>
        Act.emit ⟨.trace, introspectTarget, "property read failed: " ++ e.message,
          [("pid", .shown pid.text), ("key", .text key)]⟩
        pure none
    a.close i
    return value

/-! ## Publications -/

/-- A property held under a key. -/
structure Publication where
  key : String
deriving DecidableEq, Repr

namespace Publication

/-- Publishes a value under a key. -/
def make (i : Introspector σ τ) (key value : String) :
    Act σ (Except IntrospectError Publication) := do
  match ← i.publish key value with
  | .ok _ => return .ok ⟨key⟩
  | .error e => return .error e

/-- Gives a publication up. -/
def release (i : Introspector σ τ) (p : Publication) : Act σ Unit := i.retract p.key

end Publication

/-- Runs an action while a value is published under a key. -/
def publishing (i : Introspector σ τ) (key value : String) (body : Act σ α) :
    Act σ (Except IntrospectError α) := do
  match ← Publication.make i key value with
  | .error e => return .error e
  | .ok p =>
    let a ← body
    p.release i
    return .ok a

end SelfTrace
