/-!
# Handles

Handles are known by name and lead to an agent, or to none; several may lead to the same. An agent
is given up with the last handle that leads to it: every change of the table tells which agent that
is.

* `Handles.put` — a handle by a new or a known name, in the place of what had the name;
* `Handles.drop` — a handle less.
-/

namespace SelfTrace

/-- Handles by name: where each leads, if anywhere. -/
structure Handles where
  held : List (String × Option Nat) := []
deriving DecidableEq, Repr

namespace Handles

/-- Where a handle leads. A handle that is not there leads nowhere. -/
def agent? (h : Handles) (name : String) : Option Nat :=
  ((h.held.find? (·.1 == name)).map (·.2)).join

/-- A handle leads to an agent. -/
def holds (h : Handles) (agent : Nat) : Bool := h.held.any (·.2 == some agent)

/-- The agent, unless a handle leads to it. -/
def givenUp (h : Handles) (agent : Option Nat) : Option Nat := agent.filter (!h.holds ·)

/-- Puts a handle by a name; answers the agent that is given up by that. -/
def put (h : Handles) (name : String) (agent : Option Nat) : Handles × Option Nat :=
  let after : Handles := ⟨(name, agent) :: h.held.filter (·.1 != name)⟩
  (after, after.givenUp (h.agent? name))

/-- Drops a handle; answers the agent that is given up by that. -/
def drop (h : Handles) (name : String) : Handles × Option Nat :=
  let after : Handles := ⟨h.held.filter (·.1 != name)⟩
  (after, after.givenUp (h.agent? name))

/-- Two handles lead to the same agent, or both to none. -/
def same (h : Handles) (a b : String) : Bool := h.agent? a == h.agent? b

/-- The names of all handles, in order. -/
def names (h : Handles) : List String := (h.held.map (·.1)).mergeSort fun a b => a ≤ b

/-! ## What each change leaves behind -/

theorem agent?_drop (h : Handles) (name other : String) :
    (h.drop name).1.agent? other = if other = name then none else h.agent? other := by
  simp only [drop, agent?]
  by_cases e : other = name
  · have gone : (h.held.filter (·.1 != name)).find? (·.1 == other) = none := by
      refine List.find?_eq_none.2 ?_
      intro x hx
      have ne : x.1 ≠ name := by simpa using (List.mem_filter.1 hx).2
      simp [e, ne]
    rw [gone, if_pos e]
    rfl
  · have found : (h.held.filter (·.1 != name)).find? (·.1 == other) =
        h.held.find? (·.1 == other) := by
      rw [List.find?_filter]
      congr 1
      funext x
      by_cases hx : x.1 = other
      · simp [hx, e]
      · simp [hx]
    rw [found, if_neg e]

theorem agent?_put (h : Handles) (name other : String) (agent : Option Nat) :
    (h.put name agent).1.agent? other = if other = name then agent else h.agent? other := by
  by_cases e : other = name
  · simp [put, agent?, e]
  · have dropped := h.agent?_drop name other
    rw [if_neg e] at dropped
    have next : (name == other) = false := beq_eq_false_iff_ne.2 (Ne.symm e)
    rw [if_neg e, ← dropped]
    simp only [put, drop, agent?, List.find?_cons, next]

theorem holds_of_agent? {h : Handles} {name : String} {agent : Nat}
    (e : h.agent? name = some agent) : h.holds agent = true := by
  simp only [agent?, Option.join_eq_some_iff, Option.map_eq_some_iff] at e
  obtain ⟨p, hp, he⟩ := e
  exact List.any_eq_true.2 ⟨p, List.mem_of_find?_eq_some hp, by simp [he]⟩

end Handles

end SelfTrace
