import SelfTrace.Agent.Basic
import SelfTrace.Agent.Handles

/-!
# Agents and their handles

The agents that were started, by number, and the handles that lead to them. Reports go through a
handle and are ignored where it leads to no agent. An agent is closed when its last handle goes, be
it dropped or replaced.
-/

namespace SelfTrace

/-- The agents that were started, and the handles. -/
structure Agents (σ : Type) where
  started : List (Agent σ) := []
  handles : Handles := {}

namespace Agents

variable {σ : Type}

/-- The agent that a handle leads to. -/
def agent? (t : Agents σ) (name : String) : Option (Agent σ) :=
  (t.handles.agent? name).bind (t.started[·]?)

/-- Closes an agent that is given up. -/
def closed (t : Agents σ) : Option Nat → Act σ Unit
  | none => return ()
  | some n =>
    match t.started[n]? with
    | some a => a.close
    | none => return ()

/-- Puts a handle and closes the agent that is given up by that. -/
def put (t : Agents σ) (name : String) (agent : Option Nat) : Act σ (Agents σ) := do
  let (handles, gone) := t.handles.put name agent
  t.closed gone
  return { t with handles := handles }

/-- Drops a handle and closes the agent that is given up by that. -/
def drop (t : Agents σ) (name : String) : Act σ (Agents σ) := do
  let (handles, gone) := t.handles.drop name
  t.closed gone
  return { t with handles := handles }

/-- Adds an agent that was started, with a handle. -/
def add (t : Agents σ) (name : String) (a : Agent σ) : Act σ (Agents σ) :=
  { t with started := t.started ++ [a] }.put name (some t.started.length)

/-- Starts an agent once and then again, a number of times. Only the first is kept; the others are
closed when all are started. -/
def start (t : Agents σ) (name : String) (again : Nat) (start : Act σ (Agent σ)) :
    Act σ (Agents σ) := do
  let first ← start
  let others ← (List.replicate again start).mapM id
  for a in others do a.close
  t.add name first

/-- A copy of a handle under another name. -/
def clone (t : Agents σ) (name copy : String) : Act σ (Agents σ) :=
  t.put copy (t.handles.agent? name)

/-- Changes the monitored values of the agent that a handle leads to. -/
def report (t : Agents σ) (name : String) (f : Monitors → Monitors) : Act σ Unit :=
  match t.agent? name with
  | some a => Act.report a.monitors f
  | none => return ()

/-- Drops all handles, in the order of their names. -/
def dropAll (t : Agents σ) : Act σ (Agents σ) := t.handles.names.foldlM drop t

end Agents

end SelfTrace
