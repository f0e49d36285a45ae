import SelfTrace.Agent.Collaborators

/-!
# Records of a start

Collaborators that keep a record of what is asked of them, in order, down to the end of an attached
tool. What they answer is what the collaborators behind them answer.
-/

namespace SelfTrace

/-- Something asked of a collaborator. -/
inductive AgentCall where
  | locate
  /-- A resource and its destination; `present` tells whether a file is there already. -/
  | provision (resource : String) (dest : Path) (present : Bool)
  | attach (pid : ProcessId) (tool : Path) (options : AgentOptions)
  | register (ns name : String) (values : Monitors)
  | detach (description : String)
deriving DecidableEq, Repr

/-- Collaborators that note with `note` what is asked of them. -/
def Collaborators.recorded {σ : Type} (note : AgentCall → Act σ Unit) (d : Collaborators σ) :
    Collaborators σ where
  resolve := d.resolve
  locate := do
    note .locate
    d.locate
  provision resource dest := do
    note (.provision resource dest (← Act.look (·.exists? dest)))
    d.provision resource dest
  attach pid tool options := do
    note (.attach pid tool options)
    match ← d.attach pid tool options with
    | .error e => return .error e
    | .ok grip =>
      return .ok { grip with
        release := do
          note (.detach grip.description)
          grip.release }
  register ns name number := do
    note (.register ns name ((← Act.monitored) number))
    d.register ns name number

end SelfTrace
