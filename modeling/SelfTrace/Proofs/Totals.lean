import Mathlib.Algebra.BigOperators.Group.List.Basic
import Mathlib.Data.List.DropRight
import Mathlib.Data.List.Perm.Basic
import Mathlib.Tactic.Ring
import SelfTrace.Accumulator

/-!
# Totals of any history

Threads add to one running sum, set it back and read it, each operation in one step. What is read
is a sum of whole numbers without bounds, reduced to 64 bits once at the end: wrapping around in
between leaves no trace.

* `sumOf` — what the operations of a history add up to, in whole numbers;
* `toInt_run` — the total after a history is that sum, reduced;
* `perm_of_own` — interleavings of the same sequences hold the same operations;
* `results_exact` — what holds of every history of any number of threads.
-/

namespace SelfTrace.Accumulator

/-! ## Sums without bounds -/

/-- The whole number that an operation adds. -/
def Operation.amount : Operation → Int
  | .add v => v.toInt
  | .reset => 0
  | .result => 0

/-- The operations behind the last reset; all of them where there is none. -/
def sinceReset (ops : List Operation) : List Operation := ops.rtakeWhile (· != .reset)

/-- What a history adds up to. A total from before it counts unless it was reset. -/
def sumOf (a : Accumulator) (ops : List Operation) : Int :=
  (if .reset ∈ ops then 0 else a.total.toInt) + ((sinceReset ops).map Operation.amount).sum

variable {a : Accumulator} {ops : List Operation}

theorem sumOf_nil (a : Accumulator) : a.sumOf [] = a.total.toInt := by
  simp [sumOf, sinceReset]

theorem sumOf_concat_reset (a : Accumulator) (ops : List Operation) :
    a.sumOf (ops ++ [.reset]) = 0 := by
  simp [sumOf, sinceReset]

theorem sumOf_concat (a : Accumulator) (ops : List Operation) {op : Operation}
    (h : op ≠ .reset) : a.sumOf (ops ++ [op]) = a.sumOf ops + op.amount := by
  have hsince : sinceReset (ops ++ [op]) = sinceReset ops ++ [op] := by
    rw [sinceReset, List.rtakeWhile_concat_pos _ _ _ (by simpa using h), sinceReset]
  have hmem : .reset ∈ ops ++ [op] ↔ .reset ∈ ops := by
    rw [List.mem_append, List.mem_singleton, or_iff_left h.symm]
  simp only [sumOf, hsince, hmem, List.map_append, List.map_singleton, List.sum_append,
    List.sum_singleton, Int.add_assoc]

/-- Without a reset all operations count. -/
theorem sumOf_of_not_mem (a : Accumulator) (h : .reset ∉ ops) :
    a.sumOf ops = a.total.toInt + (ops.map Operation.amount).sum := by
  have hsince : sinceReset ops = ops := by
    rw [sinceReset, List.rtakeWhile_eq_self_iff]
    intro op hop
    have hne : op ≠ .reset := by
      rintro rfl
      exact h hop
    simpa using hne
  rw [sumOf, if_neg h, hsince]

theorem sumOf_append_adds (a : Accumulator) (ops : List Operation) (v : Int64) (n : Nat) :
    a.sumOf (ops ++ List.replicate n (.add v)) = a.sumOf ops + n * v.toInt := by
  induction n with
  | zero => simp
  | succ n ih =>
    rw [List.replicate_succ', ← List.append_assoc, sumOf_concat a _ (by simp), ih,
      Operation.amount]
    push_cast
    ring

/-! ## Totals -/

theorem run_append (a : Accumulator) (before after : List Operation) :
    a.run (before ++ after) =
      (((a.run before).1.run after).1, (a.run before).2 ++ ((a.run before).1.run after).2) := by
  induction before generalizing a with
  | nil => rfl
  | cons op before ih => simp only [List.cons_append, run, ih, List.append_assoc]

theorem run_adds (a : Accumulator) (vs : List Int64) :
    (a.run (vs.map .add)).1 = a.addAll vs := by
  induction vs generalizing a with
  | nil => rfl
  | cons v vs ih => exact ih (a.add v)

/-- The total after one operation more. -/
theorem toInt_step (a : Accumulator) (op : Operation) (h : op ≠ .reset) :
    (a.step op).1.total.toInt = (a.total.toInt + op.amount).bmod (2 ^ 64) := by
  cases op with
  | add v => exact Int64.toInt_add a.total v
  | reset => exact absurd rfl h
  | result =>
    rw [Operation.amount, Int.add_zero]
    exact (Int64.toInt_bmod a.total).symm

/-- The total after a history is what it adds up to, reduced to 64 bits. -/
theorem toInt_run (a : Accumulator) (ops : List Operation) :
    (a.run ops).1.total.toInt = (a.sumOf ops).bmod (2 ^ 64) := by
  induction ops using List.reverseRecOn with
  | nil =>
    rw [sumOf_nil]
    exact (Int64.toInt_bmod a.total).symm
  | append_singleton ops op ih =>
    have hstep : (a.run (ops ++ [op])).1 = ((a.run ops).1.step op).1 := by
      rw [run_append]
      rfl
    rw [hstep]
    by_cases hop : op = .reset
    · subst hop
      rw [sumOf_concat_reset]
      rfl
    · rw [toInt_step _ op hop, ih, sumOf_concat a ops hop, Int.bmod_add_bmod]

/-! ## Answers -/

theorem length_answers (a : Accumulator) (ops : List Operation) :
    (a.run ops).2.length = ops.count .result := by
  induction ops generalizing a with
  | nil => rfl
  | cons op ops ih => cases op <;> simp [run, step, ih]

/-- The answers of a history with a reading step: that step answers the total up to it, and the
others answer as if it had not been made. -/
theorem run_reading (a : Accumulator) (before after : List Operation) :
    (a.run (before ++ .result :: after)).2 =
        (a.run before).2 ++ (a.run before).1.total :: ((a.run before).1.run after).2 ∧
      (a.run (before ++ .result :: after)).1 = (a.run (before ++ after)).1 := by
  rw [run_append, run_append]
  exact ⟨rfl, rfl⟩

/-! ## Threads -/

section Threads

variable {ι : Type} [DecidableEq ι] {events events' : List (ι × Operation)}

/-- The operations of a history of several threads, in order. -/
def operations (events : List (ι × Operation)) : List Operation := events.map (·.2)

/-- The operations that one thread issues, in order. -/
def own (events : List (ι × Operation)) (t : ι) : List Operation :=
  (events.filter (·.1 = t)).map (·.2)

theorem count_own (events : List (ι × Operation)) (t : ι) (op : Operation) :
    (own events t).count op = events.count (t, op) := by
  rw [own, List.count, List.countP_map, List.countP_filter, List.count]
  congr 1
  funext event
  simp [Prod.ext_iff, Bool.beq_eq_decide_eq, Bool.and_comm]

/-- Interleavings of the same sequences hold the same operations. -/
theorem perm_of_own (h : ∀ t, own events t = own events' t) : events.Perm events' := by
  rw [List.perm_iff_count]
  intro event
  rw [← count_own, ← count_own, h]

/-- Without a reset the order of the operations does not matter. -/
theorem run_eq_of_perm {ops' : List Operation} (h : ops.Perm ops') (hreset : .reset ∉ ops) :
    (a.run ops).1 = (a.run ops').1 := by
  have hreset' : .reset ∉ ops' := fun hmem => hreset (h.mem_iff.2 hmem)
  have hsum : (ops.map Operation.amount).sum = (ops'.map Operation.amount).sum :=
    (h.map _).sum_eq
  have htotal : (a.run ops).1.total.toInt = (a.run ops').1.total.toInt := by
    rw [toInt_run, toInt_run, sumOf_of_not_mem a hreset, sumOf_of_not_mem a hreset', hsum]
  exact congrArg Accumulator.mk (Int64.toInt_inj.1 htotal)

/-- What a history of some threads comes to, in terms of whole numbers. -/
structure Exact (a : Accumulator) (events : List (ι × Operation)) : Prop where
  /-- A reading step answers what the operations before it add up to. -/
  answers : ∀ before t after, events = before ++ (t, .result) :: after →
    ∃ r, (a.run (operations events)).2[(operations before).count .result]? = some r ∧
      r.toInt = (a.sumOf (operations before)).bmod (2 ^ 64)
  /-- No other step answers. -/
  answered : (a.run (operations events)).2.length = (operations events).count .result
  /-- A reading step changes neither the total nor what the others answer. -/
  reading : ∀ before t after, events = before ++ (t, .result) :: after →
    (a.run (operations (before ++ after))).1 = (a.run (operations events)).1 ∧
      (a.run (operations (before ++ after))).2 =
        (a.run (operations events)).2.eraseIdx ((operations before).count .result)
  total : (a.run (operations events)).1.total.toInt =
    (a.sumOf (operations events)).bmod (2 ^ 64)
  /-- Every interleaving of what the threads do ends with the same total. -/
  interleaved : .reset ∉ operations events → ∀ events' : List (ι × Operation),
    (∀ t, own events' t = own events t) →
      (a.run (operations events')).1 = (a.run (operations events)).1
  /-- To add a value some times, one by one or in one step, adds the multiple of it. -/
  repeated : ∀ v n, (a.run (operations events ++ List.replicate n (.add v))).1 =
      (a.run (operations events)).1.addTimes v n ∧
    ((a.run (operations events)).1.addTimes v n).total.toInt =
      (a.sumOf (operations events) + n * v.toInt).bmod (2 ^ 64)

/-- Threads that add to a running sum, read it and set it back, in any interleaving: nothing is lost
or counted twice, and wrapping around shows in the last step alone. -/
theorem results_exact (a : Accumulator) (events : List (ι × Operation)) : a.Exact events := by
  constructor
  case answered => exact length_answers a _
  case total => exact toInt_run a _
  case answers =>
    intro before t after hevents
    have hops : operations events = operations before ++ .result :: operations after := by
      rw [hevents, operations, List.map_append, List.map_cons]
      rfl
    refine ⟨(a.run (operations before)).1.total, ?_, toInt_run a _⟩
    rw [hops, (run_reading a _ _).1, ← length_answers a]
    rw [List.getElem?_append_right (Nat.le_refl _), Nat.sub_self]
    rfl
  case reading =>
    intro before t after hevents
    have hops : operations events = operations before ++ .result :: operations after := by
      rw [hevents, operations, List.map_append, List.map_cons]
      rfl
    have hothers : operations (before ++ after) = operations before ++ operations after :=
      List.map_append
    obtain ⟨hanswers, htotal⟩ := run_reading a (operations before) (operations after)
    rw [hops, hothers, hanswers, htotal, ← length_answers a, run_append]
    exact ⟨rfl, by simp [List.eraseIdx_append_of_length_le]⟩
  case interleaved =>
    intro hreset events' hown
    have hperm : (operations events).Perm (operations events') :=
      (perm_of_own fun t => (hown t).symm).map _
    exact (run_eq_of_perm hperm hreset).symm
  case repeated =>
    intro v n
    have hadded : (a.run (operations events ++ List.replicate n (.add v))).1 =
        (a.run (operations events)).1.addTimes v n := by
      rw [run_append, ← List.map_replicate, run_adds, addTimes_eq_addAll]
    rw [← hadded, toInt_run, sumOf_append_adds]
    exact ⟨rfl, rfl⟩

end Threads

/-- Past the upper end and back. -/
example : (zero.run [.add Int64.maxValue, .add 1, .result, .add (-1), .result]).2 =
    [Int64.minValue, Int64.maxValue] := by decide

end SelfTrace.Accumulator
