import SelfTrace.Config
import SelfTrace.Files.Execute
import SelfTrace.Tool.Command
import SelfTrace.Tool.Output
import SelfTrace.Tool.Session

/-!
# Attaching the tool

The tool is started with a command built from a template and watched until it has settled; then it
counts as attached. A tool that does not settle is taken down again.
-/

namespace SelfTrace

/-- How the tool is attached. -/
structure Launcher where
  template : List String := Command.defaultTemplate
  settle : Duration := Duration.ofMillis 250
  output : Output.Settings := {}
deriving Repr

/-- What is handed over with a command: its name, its arguments, and its variables. -/
def Command.handed (c : Command) : List Bytes :=
  c.program :: c.args.map Text.octets ++ c.env.map fun v => Text.octets (v.1 ++ "=" ++ v.2)

/-- Checks that a command can be started: nothing that is handed over holds a NUL, the program is
there and can be executed, and what is handed over fits. -/
def Command.checkStart (c : Command) (files : Files.Tree) (searchPath : Bytes) :
    Except Failure Unit :=
  let texts := c.args ++ c.env.map (·.1) ++ c.env.map (·.2)
  if texts.any (·.toList.contains '\x00') then .error .nulInArgument
  else files.checkCommand c.handed searchPath c.program

/-- What the operating system does with a command. -/
structure Starter (σ : Type) where
  /-- Starts a command: the process number and the process. -/
  start : Command → Act σ (Except Failure (Nat × Child σ))
  /-- The readings of the clock from the start on. -/
  clock : Act σ (List Nat)

/-- A starter whose operating system is a part of a larger state. -/
def Starter.on {ρ σ : Type} (p : Part ρ σ) (os : Starter σ) : Starter ρ where
  start c := do
    match ← (os.start c).on p with
    | .ok (agentPid, child) => return .ok (agentPid, child.on p)
    | .error e => return .error e
  clock := os.clock.on p

namespace Launcher

variable {σ : Type}

/-- What a configuration says of attaching. -/
def ofConfig (c : Config) : Launcher := { settle := Duration.ofMillis c.settleMs.toNat }

/-- Refuses a template that cannot be filled. -/
def validate (l : Launcher) : Except CommandError Unit := Command.validateTemplate l.template

/-- The command of one attach. -/
def command (l : Launcher) (pid : ProcessId) (agent : Path) (options : AgentOptions) :
    Except CommandError Command := Command.build l.template l.settle pid agent options

/-- Watches a new tool for the time of its command. -/
def watch (os : Starter σ) (s : Session σ) (time : Duration) :
    Act σ (Except DriverError Unit) := do
  match ← os.clock with
  | [] => s.settle 0 []
  | start :: readings => s.settle (start + time.nanos) readings

/-- Attaches the tool to a process. -/
def attach (l : Launcher) (os : Starter σ) (pid : ProcessId) (agent : Path)
    (options : AgentOptions) : Act σ (Except DriverError (Session σ)) := do
  match l.command pid agent options with
  | .error e => return .error (.invalidConfig e.message)
  | .ok c =>
    c.note
    match ← os.start c with
    | .error e => return .error (.spawn agent e)
    | .ok (agentPid, child) =>
      let s : Session σ := ⟨c.run, agent, agentPid, pid.text, child⟩
      match ← watch os s c.settle with
      | .error e =>
        s.close
        return .error e
      | .ok _ =>
        Act.emit ⟨.debug, Session.target, "agent attached",
          [("run", .shown c.run), ("agent", .shown (Text.lossyText agent)),
            ("agent_pid", .int agentPid)]⟩
        return .ok s

end Launcher

end SelfTrace
