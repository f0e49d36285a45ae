import Mathlib.Logic.Function.Basic
import SelfTrace.Proofs.Ledger

/-!
# What steps alone tell

Where each handle leads and what was reported to each agent, told by the steps that were done and by
no table of handles; and that the ledger agrees with it.

* `History` — what some steps tell;
* `History.Held` — a handle leads to an agent;
* `Ledger.Agrees` — a ledger has as many agents and the same handles as a history;
* `Ledger.after_agrees`, `Ledger.reportsTo_deeds` — a ledger after some steps agrees with them, and
  so do the reports among its deeds.
-/

namespace SelfTrace

variable {σ : Type}

/-! ## Histories -/

/-- What some steps tell: the number of agents, where each handle leads, and the reports that were
made through the handles of each agent. -/
structure History where
  started : Nat := 0
  leads : String → Option Nat := fun _ => none
  reports : Nat → List Report := fun _ => []

namespace History

/-- What is told after one more step. -/
def add (h : History) : HandleStep σ → History
  | .start handle _ =>
    { h with started := h.started + 1, leads := Function.update h.leads handle (some h.started) }
  | .empty handle => { h with leads := Function.update h.leads handle none }
  | .clone handle copy => { h with leads := Function.update h.leads copy (h.leads handle) }
  | .report handle r =>
    { h with reports := fun n =>
      if h.leads handle = some n then h.reports n ++ [r] else h.reports n }
  | .drop handle => { h with leads := Function.update h.leads handle none }

/-- What some steps tell, before which there are no agents and no handles. -/
def of (steps : List (HandleStep σ)) : History := steps.foldl add {}

/-- A handle leads to an agent. -/
def Held (h : History) (n : Nat) : Prop := ∃ handle, h.leads handle = some n

theorem of_concat (steps : List (HandleStep σ)) (x : HandleStep σ) :
    of (steps ++ [x]) = (of steps).add x := by
  rw [of, of, List.foldl_append]
  rfl

end History

/-! ## The ledger agrees -/

namespace Ledger

/-- A ledger has the agents and the handles of a history. -/
structure Agrees (l : Ledger) (h : History) : Prop where
  started : l.started = h.started
  leads : ∀ handle, l.handles.agent? handle = h.leads handle

variable {l : Ledger} {h : History}

theorem Agrees.holds_iff (ha : l.Agrees h) (hl : l.Sound) (n : Nat) :
    l.handles.holds n = true ↔ h.Held n := by
  rw [Handles.holds_iff hl.distinct, History.Held]
  simp only [ha.leads]

theorem Agrees.ended_iff (ha : l.Agrees h) (hl : l.Sound) (n : Nat) :
    l.Ended n ↔ n < h.started ∧ ¬h.Held n := by
  rw [Ended, ha.started, ← ha.holds_iff hl, Bool.not_eq_true]

/-- A handle that is put or dropped leads where the step says, and every other where it led. -/
theorem Agrees.change (ha : l.Agrees h) (x : HandleStep σ) : (x.change l).1.Agrees (h.add x) := by
  cases x with
  | start handle x =>
    refine ⟨congrArg (· + 1) ha.started, fun other => ?_⟩
    show (l.handles.put handle (some l.started)).1.agent? other = _
    rw [Handles.agent?_put, ha.started, ha.leads]
    exact (Function.update_apply ..).symm
  | empty handle =>
    refine ⟨ha.started, fun other => ?_⟩
    show (l.handles.put handle none).1.agent? other = _
    rw [Handles.agent?_put, ha.leads]
    exact (Function.update_apply ..).symm
  | clone handle copy =>
    refine ⟨ha.started, fun other => ?_⟩
    show (l.handles.put copy (l.handles.agent? handle)).1.agent? other = _
    rw [Handles.agent?_put, ha.leads, ha.leads]
    exact (Function.update_apply ..).symm
  | report handle r => exact ⟨ha.started, ha.leads⟩
  | drop handle =>
    refine ⟨ha.started, fun other => ?_⟩
    show (l.handles.drop handle).1.agent? other = _
    rw [Handles.agent?_drop, ha.leads]
    exact (Function.update_apply ..).symm

theorem after_agrees (steps : List (HandleStep σ)) :
    (({} : Ledger).after steps).Agrees (History.of steps) := by
  induction steps using List.reverseRecOn with
  | nil => exact ⟨rfl, fun _ => rfl⟩
  | append_singleton steps x ih =>
    rw [after_concat, History.of_concat]
    exact ih.change x

end Ledger

/-! ## Reports -/

/-- The reports of a step reach the agent that the history tells, and no other. -/
theorem HandleStep.reportsTo_deeds {l : Ledger} {h : History} (ha : l.Agrees h) (x : HandleStep σ)
    (n : Nat) : h.reports n ++ Deed.reportsTo n (x.deeds l) = (h.add x).reports n := by
  have hends : ∀ gone, Deed.reportsTo n (Deed.ends gone : List (Deed σ)) = [] := by
    intro gone
    cases gone with
    | none => rfl
    | some m => rfl
  rw [deeds, Deed.reportsTo_append, hends, List.append_nil]
  cases x with
  | report handle r =>
    simp only [opening, History.add, ha.leads]
    cases h.leads handle with
    | none => simp [Deed.reportsTo]
    | some m =>
      by_cases hm : m = n
      · simp [Deed.reportsTo, Deed.reportTo?, hm]
      · simp [Deed.reportsTo, Deed.reportTo?, hm]
  | _ => exact List.append_nil _

theorem Ledger.reportsTo_deeds (steps : List (HandleStep σ)) (n : Nat) :
    Deed.reportsTo n (({} : Ledger).deeds steps) = (History.of steps).reports n := by
  induction steps using List.reverseRecOn with
  | nil => rfl
  | append_singleton steps x ih =>
    rw [deeds_concat, Deed.reportsTo_append, ih, History.of_concat]
    exact x.reportsTo_deeds (after_agrees steps) n

end SelfTrace
