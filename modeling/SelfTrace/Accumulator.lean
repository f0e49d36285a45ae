/-!
# Running sums

A total to which any number of threads add. Additions wrap around at both ends of 64 bits; each
operation is one step, so a history of operations determines every result. Main statement:
`addTimes_eq_addAll` — to add a value a number of times in one step is to add it again and again.
-/

namespace SelfTrace

/-- A running sum of 64 bits. -/
structure Accumulator where
  total : Int64
deriving DecidableEq, Repr

namespace Accumulator

def zero : Accumulator := ⟨0⟩

/-- Adds a value, wrapping around. -/
def add (a : Accumulator) (v : Int64) : Accumulator := ⟨a.total + v⟩

/-- Starts again from zero. -/
def reset (_ : Accumulator) : Accumulator := zero

/-- Adds values one after the other. -/
def addAll (a : Accumulator) (vs : List Int64) : Accumulator := vs.foldl add a

/-- Adds a value a number of times, in one step. -/
def addTimes (a : Accumulator) (v : Int64) (n : Nat) : Accumulator :=
  ⟨a.total + Int64.ofNat n * v⟩

/-- An operation on a running sum. -/
inductive Operation where
  | add (v : Int64)
  | reset
  | result
deriving DecidableEq, Repr

/-- One step of a history: the new sum, and the answer of a reading step. -/
def step (a : Accumulator) : Operation → Accumulator × Option Int64
  | .add v => (a.add v, none)
  | .reset => (a.reset, none)
  | .result => (a, some a.total)

/-- The answers of a history, in order, and the sum after it. -/
def run (a : Accumulator) : List Operation → Accumulator × List Int64
  | [] => (a, [])
  | op :: ops =>
    let (b, answer) := a.step op
    let (c, answers) := b.run ops
    (c, answer.toList ++ answers)

theorem addTimes_eq_addAll (a : Accumulator) (v : Int64) (n : Nat) :
    a.addTimes v n = a.addAll (List.replicate n v) := by
  induction n generalizing a with
  | zero => simp [addTimes, addAll]
  | succ n ih =>
    have := ih (a.add v)
    simp only [addAll, List.replicate_succ, List.foldl_cons] at this ⊢
    rw [← this]
    simp [addTimes, add, Int64.ofNat_add, Int64.add_mul, Int64.add_assoc, Int64.add_comm v]

end Accumulator

end SelfTrace
