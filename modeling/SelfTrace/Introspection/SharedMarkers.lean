import SelfTrace.Introspection.Holdings
import SelfTrace.Introspection.MarkerDirectory

/-!
# One directory, several owners

Introspectors of one marker directory, each with what it has published itself. An owner comes into
being with its first action and publishes nothing at first.
-/

namespace SelfTrace

/-- What each owner has published. -/
structure SharedMarkers where
  owners : List (String × Published) := []
deriving Repr

namespace SharedMarkers

/-- What one owner has published. -/
def owner (name : String) : Part SharedMarkers Published where
  view s := (Holdings.find name s.owners).getD []
  put s p := ⟨(name, p) :: Holdings.without name s.owners⟩

/-- The end of all owners, by name: each withdraws what it has published. -/
def retractAll : Act SharedMarkers Unit := do
  for (name, _) in Holdings.byName (← Act.state).owners do
    MarkerDirectory.retractAll.on (owner name)

end SharedMarkers

namespace MarkerDirectory

/-- The names in the directory, in order; none if it cannot be listed. -/
def names? (d : MarkerDirectory) (files : Files.Tree) : Option (List String) :=
  match files.list d.dir with
  | .ok names => some ((names.map Text.lossyText).mergeSort fun a b => a ≤ b)
  | .error _ => none

/-- Removes a marker behind its owner's back. -/
def erase {σ : Type} (d : MarkerDirectory) (name : String) : Act σ (Except Failure Unit) :=
  Act.change (·.remove (Path.join d.dir (Text.octets name)))

/-- What a visit to a process shows: the values under some keys, how detaching went, and the
values after that. -/
structure Visit where
  before : List (Except IntrospectError (Option String))
  detached : Except IntrospectError Unit
  after : List (Except IntrospectError (Option String))

/-- Attaches to a process, reads, detaches and reads again. -/
def visit (d : MarkerDirectory) (pid : ProcessId) (keys : List String) :
    Act Published (Except IntrospectError Visit) := do
  match ← d.attach pid with
  | .error e => return .error e
  | .ok t =>
    let (gone, outcome) ← d.introspector.detach t
    return .ok ⟨keys.map (tableGet t), outcome, keys.map (tableGet gone)⟩

end MarkerDirectory

end SelfTrace
