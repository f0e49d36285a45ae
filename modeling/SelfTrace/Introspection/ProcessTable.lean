import SelfTrace.Introspection.Introspector

/-!
# Tables of processes

An introspector over processes that are known beforehand: which there are, what they publish, and
which of them refuse to be looked into. Attaching takes a snapshot of what a process publishes at
that moment.
-/

namespace SelfTrace

/-- Processes that are known beforehand. -/
structure ProcessTable where
  /-- The own process, which shows what is published. -/
  own : Option ProcessId := none
  /-- The properties of processes. -/
  processes : List (ProcessId × List (String × String)) := []
  /-- The processes that are listed, in this order. -/
  listed : List ProcessId := []
  denied : List ProcessId := []
  unreadable : List ProcessId := []
  /-- Processes that are gone when they are detached from. -/
  vanishing : List ProcessId := []
  /-- Processes that fail to be attached to. -/
  failing : List (ProcessId × Failure) := []
  listError : Option IntrospectError := none
  publishError : Option IntrospectError := none
  /-- What the own process publishes. -/
  published : List (String × String) := []
deriving Repr

/-- What a process published when it was attached to. -/
structure Snapshot where
  pid : ProcessId
  /-- The properties; none if they may not be read. -/
  properties : Option (List (String × String))
deriving Repr

namespace ProcessTable

/-- In a property, this stands for the marker that the own process publishes. -/
def markerSlot : String := "<token>"

/-- The value that is given to a key first. -/
def valueOf (properties : List (String × String)) (key : String) : Option String :=
  (properties.find? (·.1 == key)).map (·.2)

/-- The properties that a process shows. -/
def shown (t : ProcessTable) (pid : ProcessId) : List (String × String) :=
  let marker := (valueOf t.published markerKey).getD ""
  let given := match t.processes.find? (·.1 == pid) with
    | some (_, properties) => properties.map fun p => (p.1, p.2.replace markerSlot marker)
    | none => []
  if t.own == some pid then t.published ++ given else given

/-- What attaching to a process comes to. -/
def snapshot (t : ProcessTable) (pid : ProcessId) : Except IntrospectError Snapshot :=
  if t.denied.contains pid then .error (.permissionDenied pid)
  else match t.failing.find? (·.1 == pid) with
    | some (_, cause) => .error (.ofFailure pid cause)
    | none =>
      if t.unreadable.contains pid then .ok ⟨pid, none⟩
      else if t.processes.any (·.1 == pid) || t.own == some pid then .ok ⟨pid, some (t.shown pid)⟩
      else .error (.noSuchProcess pid)

/-- The value under a key of a snapshot. -/
def read (s : Snapshot) (key : String) : Except IntrospectError (Option String) :=
  match s.properties with
  | some properties => .ok (valueOf properties key)
  | none => .error (.permissionDenied s.pid)

/-- The introspector of a table. -/
def introspector : Introspector ProcessTable Snapshot where
  publish key value := do
    match (← Act.state).publishError with
    | some e => return .error e
    | none =>
      Act.update fun t =>
        { t with published := t.published.filter (·.1 != key) ++ [(key, value)] }
      return .ok ()
  retract key := Act.update fun t => { t with published := t.published.filter (·.1 != key) }
  candidates := do
    let t ← Act.state
    match t.listError with
    | some e => return .error e
    | none => return .ok t.listed
  attach pid := do return (← Act.state).snapshot pid
  get s key := return read s key
  detach s := do
    if (← Act.state).vanishing.contains s.pid then return (s, .error (.noSuchProcess s.pid))
    else return (s, .ok ())

end ProcessTable

end SelfTrace
