import SelfTrace.Agent.Agents
import SelfTrace.Log.Logger
import SelfTrace.Metrics.Registry
import SelfTrace.Workload

/-!
# The demonstration

A program that installs its log, starts an agent for itself, runs the workload and shows what a
scrape would see; then the agent goes. It fails only over its settings: an agent that does not start
is no reason to stop.
-/

namespace SelfTrace.Demo

variable {σ : Type}

/-! ## Failures -/

/-- Why the program stops: in words, with the words of the cause behind it. -/
structure Stop where
  message : String
  cause : Option String := none
deriving DecidableEq, Repr

/-- A refused setting of the log; only one from the environment has a cause behind it. -/
def Stop.ofLogError (e : Log.LogError) : Stop :=
  ⟨e.message, match e with
    | .env _ cause => some cause.message
    | _ => none⟩

/-- The lines that tell why the program stops. The words of a cause are indented. -/
def Stop.lines (s : Stop) : List String :=
  ("Error: " ++ s.message).splitOn "\n" ++
    match s.cause with
    | none => []
    | some cause => ["", "Caused by:"] ++ (cause.splitOn "\n").map ("    " ++ ·)

/-! ## Running -/

/-- The part of the program that these events come from. -/
def target : String := "perfdbg_agentd"

/-- Tells how the start of the agent went. -/
def announce (t : Agents σ) : Act σ Unit :=
  match t.agent? "" with
  | some a =>
    if a.isAttached then
      Act.emit ⟨.info, target, "debug agent attached",
        [("pid", .shown (Agent.optionText ProcessId.described a.pid)),
          ("script", .shown (Agent.optionText Text.quotedPath a.script))]⟩
    else
      Act.emit ⟨.warn, target, "running without debug agent", [("state", .shown a.state.label)]⟩
  | none => Act.emit ⟨.warn, target, "debug agent not initialized", []⟩

/-- Starts the agent of a configuration, runs the workload and lets the agent go. -/
def work (h : Host σ) (registry : Part σ Metrics.Registry) (c : Config) : Act σ Unit := do
  let deps := Collaborators.standard c h (Metrics.Registry.registerIn registry)
  let t ← ({} : Agents σ).start "" 0
    (Agent.start deps c (c.resolvedAgentName h.env) (Text.octets h.env.tempDir))
  announce t
  t.report "" (Workload.reported · Workload.senders)
  let total := Workload.total Workload.senders Workload.messagesPerSender
  Act.emit ⟨.info, target, "load finished", [("total", .int total.toInt)]⟩
  Act.emit ⟨.info, target, "metrics:\n" ++ (← Metrics.Registry.renderIn registry), []⟩
  let _ ← t.drop ""

/-- What a run leaves: the exit code, and the lines of the output and of the error output. -/
structure Report where
  exit : Nat
  output : List String
  errors : List String
deriving DecidableEq, Repr

/-- A run that stops before anything is logged, or goes through with a log. `journald` is what
opening the system's journal comes to, and `nanos` the time of the events. -/
def run (h : Host σ) (registry : Part σ Metrics.Registry) (journald : Except Failure Unit)
    (nanos : Nat) : Act σ Report := do
  let stopped (s : Stop) : Report := ⟨1, [], s.lines⟩
  match ({} : Log.Settings).overlay h.env with
  | .error e => return stopped (.ofLogError e)
  | .ok settings =>
    let (log, installed) := (({} : Log.Logger).initOffset h.env nanos).install settings journald
    match installed with
    | .error e => return stopped (.ofLogError e)
    | .ok _ =>
      let before := (← get).log.length
      Act.emit ⟨.info, target, "logger initialized", []⟩
      let c := ({} : Config).overlay h.env
      let errors ← do
        match c.validate with
        | .error e => pure (some (Stop.lines ⟨e.message, none⟩))
        | .ok _ =>
          work h registry c
          pure none
      let events := (← get).log.drop before
      let output := (log.lines h.env nanos events).flatMap (·.splitOn "\n")
      match errors with
      | some errors => return ⟨1, output, errors⟩
      | none => return ⟨0, output, []⟩

end SelfTrace.Demo
