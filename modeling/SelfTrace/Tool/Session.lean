import SelfTrace.Agent.Error
import SelfTrace.Scene
import SelfTrace.Text.Duration

/-!
# A running tool

A tool that was started is watched for a time, in which it must not exit, and is taken down when
its session ends: killed if it still runs, and always waited for. What the operating system answers
comes from a `Child`.
-/

namespace SelfTrace

/-! ## Ends of processes -/

/-- How a process ended. -/
inductive ExitStatus where
  | exited (code : Nat)
  | signaled (signal : Nat)
deriving DecidableEq, Repr

/-- The end with the code that a process gave; eight bits of it are kept. -/
def ExitStatus.ofCode (code : Int) : ExitStatus := .exited (code % 256).toNat

/-- The names of the signals, from 1 on. -/
def signalNames : List String := [
  "SIGHUP", "SIGINT", "SIGQUIT", "SIGILL", "SIGTRAP", "SIGABRT", "SIGBUS", "SIGFPE", "SIGKILL",
  "SIGUSR1", "SIGSEGV", "SIGUSR2", "SIGPIPE", "SIGALRM", "SIGTERM", "SIGSTKFLT", "SIGCHLD",
  "SIGCONT", "SIGSTOP", "SIGTSTP", "SIGTTIN", "SIGTTOU", "SIGURG", "SIGXCPU", "SIGXFSZ",
  "SIGVTALRM", "SIGPROF", "SIGWINCH", "SIGIO", "SIGPWR", "SIGSYS"]

/-- The end by a signal, which is named without the letters in front. -/
def ExitStatus.ofSignalName (name : String) : ExitStatus :=
  .signaled (((signalNames.findIdx? (· == "SIG" ++ name)).map (· + 1)).getD 0)

/-- The end of a process in words. -/
def ExitStatus.text : ExitStatus → String
  | .exited code => "exit status: " ++ Text.decimalText code
  | .signaled signal =>
    "signal: " ++ Text.decimalText signal ++
      match signalNames[signal - 1]? with
      | some name => if signal = 0 then "" else " (" ++ name ++ ")"
      | none => ""

/-! ## Children -/

/-- What can be done with a process that was started. -/
structure Child (σ : Type) where
  /-- Asks whether it has ended. -/
  poll : Act σ (Except Failure (Option ExitStatus))
  /-- Kills it. -/
  kill : Act σ (Except Failure Unit)
  /-- Waits for its end. -/
  wait : Act σ (Except Failure ExitStatus)
  /-- Lets time pass. -/
  sleep : Duration → Act σ Unit

/-- A child whose operating system is a part of a larger state. -/
def Child.on {ρ σ : Type} (p : Part ρ σ) (c : Child σ) : Child ρ where
  poll := c.poll.on p
  kill := c.kill.on p
  wait := c.wait.on p
  sleep time := (c.sleep time).on p

/-- A tool attached to a process. -/
structure Session (σ : Type) where
  /-- Name of the attach in the log. -/
  run : String
  /-- The tool. -/
  agent : Path
  /-- Its process. -/
  agentPid : Nat
  /-- The process that it traces. -/
  traced : String
  child : Child σ

namespace Session

variable {σ : Type}

/-- The part of the program that these events come from. -/
def target : String := "perfdbg_exec::subprocess::driver"

/-- How long to sleep between two looks at a new tool. -/
def pollInterval : Duration := Duration.ofMillis 25

/-- The session in short. -/
def description (s : Session σ) : String :=
  Text.lossyText s.agent ++ " (pid " ++ Text.decimalText s.agentPid ++ ") attached to pid " ++
    s.traced

/-- Looks at a new tool: what is wrong with it, if anything. -/
def look (s : Session σ) : Act σ (Option DriverError) := do
  match ← s.child.poll with
  | .ok (some status) => return some (.exited status.text)
  | .error e => return some (.spawn s.agent e)
  | .ok none => return none

/-- Watches a tool until a deadline. The clock gives the readings, in nanoseconds, one after each
look at the tool; no further reading means that the deadline is reached. -/
def settle (s : Session σ) (deadline : Nat) : List Nat → Act σ (Except DriverError Unit)
  | [] => do
    match ← s.look with
    | some e => return .error e
    | none => return .ok ()
  | now :: readings => do
    match ← s.look with
    | some e => return .error e
    | none =>
      if deadline ≤ now then return .ok ()
      s.child.sleep ⟨min pollInterval.nanos (deadline - now)⟩
      settle s deadline readings

/-- Waits for the end of a tool. -/
def collect (s : Session σ) : Act σ Unit := do
  match ← s.child.wait with
  | .ok status =>
    Act.emit ⟨.debug, target, "agent detached",
      [("run", .shown s.run), ("status", .shown status.text)]⟩
  | .error e =>
    Act.emit ⟨.warn, target, "failed to reap agent: " ++ e.message, [("run", .shown s.run)]⟩

/-- Kills a tool and waits for its end, whether or not it could be killed. -/
def finish (s : Session σ) : Act σ Unit := do
  match ← s.child.kill with
  | .ok _ => pure ()
  | .error e =>
    Act.emit ⟨.debug, target, "failed to kill agent: " ++ e.message, [("run", .shown s.run)]⟩
  s.collect

/-- Takes a tool down: a tool that has ended is left alone, any other is killed and waited for. -/
def close (s : Session σ) : Act σ Unit := do
  match ← s.child.poll with
  | .ok (some status) =>
    Act.emit ⟨.debug, target, "agent already exited",
      [("run", .shown s.run), ("status", .shown status.text)]⟩
  | _ => s.finish

end Session

end SelfTrace
