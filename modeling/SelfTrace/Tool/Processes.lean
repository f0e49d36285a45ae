import SelfTrace.Tool.Launch

/-!
# Processes of tools

An operating system on which it is known beforehand how tools end by themselves. A tool runs when it
is looked at for the first time and has ended, if it ends at all, when it is looked at again; the
clock moves by a millisecond between two looks.
-/

namespace SelfTrace

/-- A process of a tool. -/
structure ToolProcess where
  command : Command
  /-- How it ends by itself, if it does. -/
  fate : Option ExitStatus
  /-- How often it was looked at. -/
  looks : Nat := 0
  ended : Option ExitStatus := none
deriving Repr

namespace ToolProcess

/-- Looks at a process that may have ended. -/
def seen (p : ToolProcess) : ToolProcess :=
  if p.ended.isSome then p
  else { p with looks := p.looks + 1, ended := if p.looks = 0 then none else p.fate }

/-- Ends a process by a signal that cannot be caught. -/
def killed (p : ToolProcess) : ToolProcess := { p with ended := some (.signaled 9) }

end ToolProcess

/-- The processes that were started, in order. -/
abbrev ToolProcesses := List ToolProcess

namespace ToolProcesses

/-- What can be done with the process at a position. -/
def child (n : Nat) : Child ToolProcesses where
  poll := do
    Act.update (·.modify n ToolProcess.seen)
    return .ok ((← Act.state)[n]?.bind (·.ended))
  kill := do
    Act.update (·.modify n ToolProcess.killed)
    return .ok ()
  wait := return .ok (((← Act.state)[n]?.bind (·.ended)).getD (.signaled 9))
  sleep _ := return ()

/-- The readings of the clock, in nanoseconds. -/
def readings : List Nat := [0, 0, 1000000, 2000000, 3000000]

/-- An operating system that looks for programs in a search path, gives processes one number, and on
which a command ends as `fate` says. -/
def starter (searchPath : Bytes) (number : Nat) (fate : Files.Tree → Command → Option ExitStatus) :
    Starter ToolProcesses where
  start c := do
    match ← Act.look fun files => c.checkStart files searchPath with
    | .error e => return .error e
    | .ok _ =>
      let fate ← Act.look fun files => fate files c
      let n := (← Act.state).length
      Act.update (· ++ [{ command := c, fate := fate }])
      return .ok (number, child n)
  clock := return readings

end ToolProcesses

end SelfTrace
