import SelfTrace.Proofs.MarkerNames
import SelfTrace.Proofs.WrittenIds
import SelfTrace.Resolver.Probe

/-!
# Ids in names

A runtime's name is an id, an `@` and a host. `NamesId` is the id in a name, said apart from how it
is read; a name without a readable id tells none.
-/

namespace SelfTrace

/-- A name that tells an id: what is in front of its first `@` writes the id. -/
def NamesId (name : String) (p : ProcessId) : Prop :=
  ∃ front host, name.toList = front ++ '@' :: host ∧ '@' ∉ front ∧
    ProcessId.parse? (String.ofList front) = some p

theorem nameId_of_front {name : String} {front host : List Char}
    (h : name.toList = front ++ '@' :: host) (hfront : '@' ∉ front) (p : ProcessId) :
    Probe.nameId name = .ok p ↔ ProcessId.parse? (String.ofList front) = some p := by
  unfold Probe.nameId
  dsimp only
  rw [h, if_pos (by simp), Text.takeWhile_ne_append hfront, ← ProcessId.parse_eq_ok_iff]
  cases ProcessId.parse (String.ofList front) <;> simp

/-- The id read off a name is the one that the name tells. -/
theorem nameId_eq_ok_iff {name : String} {p : ProcessId} :
    Probe.nameId name = .ok p ↔ NamesId name p := by
  constructor
  · intro h
    by_cases hat : '@' ∈ name.toList
    · rcases List.eq_append_cons_of_mem hat with ⟨front, host, hname, hfront⟩
      exact ⟨front, host, hname, hfront, (nameId_of_front hname hfront p).1 h⟩
    · rw [Probe.nameId, if_neg (by simpa using hat)] at h
      cases h
  · rintro ⟨front, host, hname, hfront, hp⟩
    exact (nameId_of_front hname hfront p).2 hp

/-- A name whose id is not read tells none. -/
theorem malformed_of_nameId {name : String} {e : ProbeError} (h : Probe.nameId name = .error e) :
    ∃ reason, e = .malformed reason ∧ ∀ p, ¬NamesId name p := by
  have hnone : ∀ p, ¬NamesId name p := by
    intro p hp
    rw [nameId_eq_ok_iff.2 hp] at h
    cases h
  simp only [Probe.nameId] at h
  split at h
  · split at h
    · cases h
    · cases h
      exact ⟨_, rfl, hnone⟩
  · cases h
    exact ⟨_, rfl, hnone⟩

/-- An id and a host behind it, whatever the host is called, make a name that tells the id. -/
theorem nameId_text_iff (p : ProcessId) (host : String) :
    Probe.nameId (p.text ++ "@" ++ host) = .ok p ↔ p.raw ≠ 0 := by
  have hname : (p.text ++ "@" ++ host).toList = p.chars ++ '@' :: host.toList := by
    simp [ProcessId.text]
  have hfront : '@' ∉ p.chars := by
    intro hat
    exact absurd (ProcessId.isDigit_of_mem_chars hat) (by decide)
  rw [nameId_of_front hname hfront]
  exact ProcessId.parse?_text_iff

end SelfTrace
