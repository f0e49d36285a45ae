import SelfTrace.Agent.Collaborators
import SelfTrace.Agent.ScriptFile
import SelfTrace.AgentState

/-!
# Agents

An agent is what a start leaves behind. `Agent.start` asks its collaborators in order — process id,
tool, rule script, attach, registration — and stops at the first that fails; the failure is a part
of the agent and never an error of the caller. What the start has acquired belongs to the agent
until `Agent.close`: the tool is taken down before the script that it reads is removed.
-/

namespace SelfTrace

/-- An agent after its start. -/
structure Agent (σ : Type) where
  /-- The number of its monitored values. -/
  monitors : Nat
  state : AgentState := .uninitialized
  /-- The stage that failed. -/
  failure : Option AttachErrorKind := none
  /-- The own process, once it is known. -/
  pid : Option ProcessId := none
  /-- The attached tool. -/
  session : Option (Grip σ) := none
  /-- The file of the rule script. -/
  script : Option Path := none

namespace Agent

variable {σ : Type}

/-- The part of the program that these events come from. -/
def target : String := "perfdbg_core::agent::debug"

/-! ## Starting -/

/-- Makes the file of the rule script and lets it be written: the file, and where the script was
written. A file whose script is not written is removed again. -/
def provisionScript (d : Collaborators σ) (c : Config) (m : ScriptFile.Maker) :
    Act σ (Except ProvisionError (Path × Path)) := do
  match ← ScriptFile.make m with
  | .error e => return .error e
  | .ok file =>
    match ← d.provision c.scriptResource file with
    | .ok written => return .ok (file, written)
    | .error e =>
      ScriptFile.remove file
      return .error e

/-- Goes through the stages of a start: the agent as far as it has come, and what went wrong. -/
def install (d : Collaborators σ) (c : Config) (name : String) (m : ScriptFile.Maker)
    (a : Agent σ) : Act σ (Agent σ × Except AttachError Unit) := do
  match ← d.resolve with
  | none => return (a, .error .unresolved)
  | some pid =>
    let a := { a with pid := some pid }
    match ← d.locate with
    | .error e => return (a, .error (.missingCapability e))
    | .ok tool =>
      match ← provisionScript d c m with
      | .error e => return (a, .error (.provisioning e))
      | .ok (file, written) =>
        let a := { a with script := some file }
        match ← d.attach pid tool ⟨c.listener, written⟩ with
        | .error e => return (a, .error (.attach e))
        | .ok session =>
          Act.emit ⟨.info, target, "instrumentation agent attached",
            [("pid", .shown pid.text), ("agent", .shown (Text.lossyText tool)),
              ("session", .shown session.description)]⟩
          match ← d.register c.metricsNamespace name a.monitors with
          | .error e =>
            session.release
            return (a, .error (.registry e))
          | .ok _ => return ({ a with session := some session }, .ok ())

/-- The event of a start that failed. -/
def failureEvent (e : AttachError) : Log.Event :=
  match e.kind with
  | .unresolved => ⟨.warn, target,
      "unable to determine own process id, debugging information will not be available", []⟩
  | .missingCapability => ⟨.error, target,
      "unable to install debug agent. Make sure the instrumentation tool is installed. " ++
        "Debugging information will not be available: " ++ e.message,
      [("kind", .text e.kind.label)]⟩
  | kind => ⟨.error, target,
      "unable to install debug agent, debugging information will not be available: " ++ e.message,
      [("kind", .text kind.label)]⟩

/-- An optional value in words. -/
def optionText {α : Type} (f : α → String) : Option α → String
  | none => "None"
  | some a => "Some(" ++ f a ++ ")"

/-- Starts an agent. `name` is that under which its monitored values are registered, and `m` makes
the file of its script. -/
def start (d : Collaborators σ) (c : Config) (name : String) (m : ScriptFile.Maker) :
    Act σ (Agent σ) := do
  let (a, outcome) ← install d c name m { monitors := ← Act.newMonitors }
  match outcome with
  | .ok _ =>
    Act.emit ⟨.info, target, "debug agent installed",
      [("pid", .shown (optionText ProcessId.text a.pid)),
        ("namespace", .shown c.metricsNamespace)]⟩
    return { a with state := .attached }
  | .error e =>
    Act.emit (failureEvent e)
    return { a with state := .attachFailed, failure := some e.kind }

/-! ## The end -/

/-- Gives back what an agent holds: first the attached tool, then the script. -/
def close (a : Agent σ) : Act σ Unit := do
  match a.session with
  | some session => session.release
  | none => pure ()
  match a.script with
  | some file => ScriptFile.remove file
  | none => pure ()

/-! ## Descriptions -/

def isAttached (a : Agent σ) : Bool := a.state == .attached

/-- An agent in words, with its monitored values. -/
def described (a : Agent σ) (m : Monitors) : String :=
  "DebugAgent \x7b state: " ++ a.state.name ++
    ", failure: " ++ optionText AttachErrorKind.name a.failure ++
    ", pid: " ++ optionText ProcessId.described a.pid ++
    ", script: " ++ optionText Text.quotedPath a.script ++
    ", monitors: Monitors \x7b generator_name: RwLock \x7b data: " ++ Text.quoted m.generatorName ++
    ", poisoned: false, .. \x7d, sender_tasks: " ++ Text.decimalText m.senderTasks.toNat ++
    " \x7d \x7d"

/-- A handle in words: the state of the agent it leads to, if any. -/
def handleDescribed (state : Option AgentState) : String :=
  "DebugHandle \x7b state: " ++ optionText AgentState.name state ++ " \x7d"

end Agent

end SelfTrace
