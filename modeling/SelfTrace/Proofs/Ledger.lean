import Mathlib.Data.List.Induction
import Mathlib.Data.List.Nodup
import SelfTrace.Agent.Handles
import SelfTrace.Proofs.Keeping

/-!
# What is done with handles

Steps on a table of handles, and what each comes to: an agent is started, a report reaches an agent,
or an agent is given up, its tool detached and its script removed. None of this depends on how a
start goes, so that the deeds of a run are told by its steps.

* `HandleStep` — what can be done with handles;
* `Deed` — what is done to the agents;
* `given_up_iff` — a step gives up the agents that had a handle and have none after it;
* `deeds_ends` — the end of each agent is among the deeds once, if it has no handle any more.
-/

namespace SelfTrace

variable {σ : Type}

/-! ## Tables of handles -/

namespace Handles

/-- No two handles have the same name. -/
def Distinct (h : Handles) : Prop := (h.held.map (·.1)).Nodup

theorem Distinct.empty : Distinct {} := List.nodup_nil

theorem Distinct.drop {h : Handles} (hd : h.Distinct) (name : String) :
    (h.drop name).1.Distinct :=
  List.Nodup.sublist (List.filter_sublist.map _) hd

theorem Distinct.put {h : Handles} (hd : h.Distinct) (name : String) (agent : Option Nat) :
    (h.put name agent).1.Distinct := by
  show ((name, agent) :: h.held.filter (·.1 != name) |>.map (·.1)).Nodup
  rw [List.map_cons, List.nodup_cons]
  constructor
  · intro hmem
    obtain ⟨p, hp, hname⟩ := List.mem_map.1 hmem
    have hne := (List.mem_filter.1 hp).2
    simp [hname] at hne
  · exact hd.drop name

/-- An agent is held exactly if some name leads to it. -/
theorem holds_iff {h : Handles} (hd : h.Distinct) (n : Nat) :
    h.holds n = true ↔ ∃ name, h.agent? name = some n := by
  constructor
  · intro hholds
    obtain ⟨⟨name, agent⟩, hp, hagent⟩ := List.any_eq_true.1 hholds
    have hsome : agent = some n := by simpa using hagent
    subst hsome
    -- the name leads to its own entry, since no other entry has the name
    have hfind : h.held.find? (·.1 == name) = some (name, some n) := by
      obtain ⟨l₁, l₂, hsplit⟩ := List.append_of_mem hp
      rw [List.find?_eq_some_iff_append]
      refine ⟨by simp, l₁, l₂, hsplit, ?_⟩
      intro q hq
      rw [Distinct, hsplit, List.map_append, List.map_cons, List.nodup_middle,
        List.nodup_cons] at hd
      have hne : q.1 ≠ name := by
        intro heq
        exact hd.1 (List.mem_append_left _ (List.mem_map.2 ⟨q, hq, heq⟩))
      simpa using hne
    exact ⟨name, by simp [agent?, hfind]⟩
  · intro hname
    obtain ⟨name, hagent⟩ := hname
    exact holds_of_agent? hagent

/-- When one name is changed, the agent that it led to is given up exactly if it was held before and
is not any more. No other agent can lose its last handle by that. -/
theorem givenUp_eq_some_iff {h after : Handles} (hd : h.Distinct) (name : String)
    (hother : ∀ other, other ≠ name → after.agent? other = h.agent? other)
    (n : Nat) :
    after.givenUp (h.agent? name) = some n ↔ h.holds n = true ∧ after.holds n = false := by
  rw [givenUp, Option.filter_eq_some_iff]
  constructor
  · intro hgone
    obtain ⟨hagent, hnot⟩ := hgone
    exact ⟨holds_of_agent? hagent, by simpa using hnot⟩
  · intro hlost
    obtain ⟨hholds, hnot⟩ := hlost
    obtain ⟨other, hagent⟩ := (holds_iff hd n).1 hholds
    have hname : other = name := by
      by_contra hne
      have hheld := holds_of_agent? ((hother other hne).trans hagent)
      rw [hnot] at hheld
      cases hheld
    rw [← hname]
    exact ⟨hagent, by simpa using hnot⟩

theorem put_gone_iff {h : Handles} (hd : h.Distinct) (name : String) (agent : Option Nat)
    (n : Nat) :
    (h.put name agent).2 = some n ↔ h.holds n = true ∧ (h.put name agent).1.holds n = false := by
  refine givenUp_eq_some_iff hd name ?_ n
  intro other hne
  exact (h.agent?_put name other agent).trans (if_neg hne)

theorem drop_gone_iff {h : Handles} (hd : h.Distinct) (name : String) (n : Nat) :
    (h.drop name).2 = some n ↔ h.holds n = true ∧ (h.drop name).1.holds n = false := by
  refine givenUp_eq_some_iff hd name ?_ n
  intro other hne
  exact (h.agent?_drop name other).trans (if_neg hne)

/-- After a handle was put, what is held is what that handle leads to, or was held before. -/
theorem holds_of_put {h : Handles} (hd : h.Distinct) {name : String} {agent : Option Nat} {n : Nat}
    (hheld : (h.put name agent).1.holds n = true) : agent = some n ∨ h.holds n = true := by
  obtain ⟨other, hagent⟩ := (holds_iff (hd.put name agent) n).1 hheld
  rw [agent?_put] at hagent
  split at hagent
  · exact .inl hagent
  · exact .inr (holds_of_agent? hagent)

theorem holds_of_drop {h : Handles} (hd : h.Distinct) {name : String} {n : Nat}
    (hheld : (h.drop name).1.holds n = true) : h.holds n = true := by
  obtain ⟨other, hagent⟩ := (holds_iff (hd.drop name) n).1 hheld
  rw [agent?_drop] at hagent
  split at hagent
  · cases hagent
  · exact holds_of_agent? hagent

end Handles

/-! ## Steps -/

/-- What a workload reports. -/
inductive Report where
  | generator (name : String)
  | task
deriving DecidableEq, Repr

/-- The monitored values after a report. -/
def Report.apply : Report → Monitors → Monitors
  | .generator name, m => m.setGeneratorName name
  | .task, m => m.addTask

/-- Collaborators that do not change monitored values, nor does a tool that they attach. -/
structure Collaborators.LeaveMonitors (d : Collaborators σ) : Prop where
  resolve : d.resolve.Keeps Scene.monitors
  locate : d.locate.Keeps Scene.monitors
  provision : ∀ resource file, (d.provision resource file).Keeps Scene.monitors
  attach : ∀ pid tool options, (d.attach pid tool options).Keeps Scene.monitors
  release : ∀ pid tool options s, (d.attach pid tool options).Leads s fun answer _ =>
    ∀ grip, answer = .ok grip → grip.release.Keeps Scene.monitors
  register : ∀ ns name number, (d.register ns name number).Keeps Scene.monitors

/-- What an agent is started with. The collaborators may answer anything. -/
structure Starting (σ : Type) where
  collaborators : Collaborators σ
  leave : collaborators.LeaveMonitors
  config : Config
  env : Environment
  maker : ScriptFile.Maker

/-- Starts the agent. -/
def Starting.act (x : Starting σ) : Act σ (Agent σ) :=
  Agent.start x.collaborators x.config (x.config.resolvedAgentName x.env) x.maker

/-- Something that is done with handles. A report goes to the agent that a handle leads to, be it
given to the handle or to the agent that was reached through it. -/
inductive HandleStep (σ : Type) where
  | start (handle : String) (x : Starting σ)
  | empty (handle : String)
  | clone (handle copy : String)
  | report (handle : String) (r : Report)
  | drop (handle : String)

/-- Something that is done to the agents, which are known by the order of their starts. -/
inductive Deed (σ : Type) where
  | start (x : Starting σ)
  | report (agent : Nat) (r : Report)
  /-- The attached tool of an agent is taken down, if there is one. -/
  | detach (agent : Nat)
  /-- The script of an agent is removed, if there is one. -/
  | unlink (agent : Nat)

namespace Deed

/-- The report that an agent is given. -/
def reportTo? (n : Nat) : Deed σ → Option Report
  | .report agent r => if agent = n then some r else none
  | _ => none

/-- The reports that an agent was given by some deeds. -/
def reportsTo (n : Nat) (deeds : List (Deed σ)) : List Report := deeds.filterMap (reportTo? n)

theorem reportsTo_append (n : Nat) (before deeds : List (Deed σ)) :
    reportsTo n (before ++ deeds) = reportsTo n before ++ reportsTo n deeds :=
  List.filterMap_append

/-- The deed gives back something that an agent holds. -/
def endsOf (n : Nat) : Deed σ → Bool
  | .detach agent => agent == n
  | .unlink agent => agent == n
  | _ => false

/-- The end of an agent: the tool goes before the script that it reads. -/
def ends : Option Nat → List (Deed σ)
  | none => []
  | some n => [.detach n, .unlink n]

theorem filter_ends (gone : Option Nat) (n : Nat) :
    (ends gone : List (Deed σ)).filter (endsOf n) =
      if gone = some n then ends (some n) else [] := by
  cases gone with
  | none => rfl
  | some m =>
    by_cases h : m = n
    · simp [ends, endsOf, h]
    · simp [ends, endsOf, h]

end Deed

/-! ## The ledger -/

/-- How many agents were started, and the handles. -/
structure Ledger where
  started : Nat := 0
  handles : Handles := {}

namespace HandleStep

/-- The ledger after a step, and the agent that is given up by it. -/
def change : HandleStep σ → Ledger → Ledger × Option Nat
  | .start handle _, l =>
    let (handles, gone) := l.handles.put handle (some l.started)
    (⟨l.started + 1, handles⟩, gone)
  | .empty handle, l =>
    let (handles, gone) := l.handles.put handle none
    (⟨l.started, handles⟩, gone)
  | .clone handle copy, l =>
    let (handles, gone) := l.handles.put copy (l.handles.agent? handle)
    (⟨l.started, handles⟩, gone)
  | .report _ _, l => (l, none)
  | .drop handle, l =>
    let (handles, gone) := l.handles.drop handle
    (⟨l.started, handles⟩, gone)

/-- What a step does before an agent is given up. -/
def opening : HandleStep σ → Ledger → List (Deed σ)
  | .start _ x, _ => [.start x]
  | .report handle r, l =>
    match l.handles.agent? handle with
    | some n => [.report n r]
    | none => []
  | _, _ => []

/-- All that a step does to the agents. -/
def deeds (x : HandleStep σ) (l : Ledger) : List (Deed σ) :=
  x.opening l ++ Deed.ends (x.change l).2

end HandleStep

namespace Ledger

/-- The ledger after some steps. -/
def after (l : Ledger) (steps : List (HandleStep σ)) : Ledger :=
  steps.foldl (fun l x => (x.change l).1) l

/-- What some steps do to the agents. -/
def deeds (l : Ledger) : List (HandleStep σ) → List (Deed σ)
  | [] => []
  | x :: steps => x.deeds l ++ (x.change l).1.deeds steps

theorem after_concat (l : Ledger) (steps : List (HandleStep σ)) (x : HandleStep σ) :
    l.after (steps ++ [x]) = (x.change (l.after steps)).1 := by
  simp [after]

theorem deeds_concat (l : Ledger) (steps : List (HandleStep σ)) (x : HandleStep σ) :
    l.deeds (steps ++ [x]) = l.deeds steps ++ x.deeds (l.after steps) := by
  induction steps generalizing l with
  | nil => simp [deeds, after]
  | cons y steps ih =>
    rw [List.cons_append, deeds, ih, deeds, List.append_assoc]
    rfl

/-- Handles have different names and lead to agents that were started. -/
structure Sound (l : Ledger) : Prop where
  distinct : l.handles.Distinct
  started : ∀ n, l.handles.holds n = true → n < l.started

theorem Sound.empty : Sound {} where
  distinct := .empty
  started := by
    intro n hheld
    cases hheld

/-- The agent was started and has no handle any more. -/
def Ended (l : Ledger) (n : Nat) : Prop := n < l.started ∧ l.handles.holds n = false

instance (l : Ledger) (n : Nat) : Decidable (l.Ended n) :=
  inferInstanceAs (Decidable (_ ∧ _))

end Ledger

namespace HandleStep

variable {l : Ledger}

/-- What is held after a step was held before, or is the agent that the step has started. -/
theorem holds_of_change (h : l.Sound) (x : HandleStep σ) {n : Nat}
    (hheld : (x.change l).1.handles.holds n = true) :
    l.handles.holds n = true ∨ n = l.started ∧ (x.change l).1.started = l.started + 1 := by
  cases x with
  | start handle x =>
    rcases Handles.holds_of_put h.distinct hheld with hnew | hbefore
    · exact .inr ⟨(Option.some.inj hnew).symm, rfl⟩
    · exact .inl hbefore
  | empty handle =>
    rcases Handles.holds_of_put h.distinct hheld with hnew | hbefore
    · cases hnew
    · exact .inl hbefore
  | clone handle copy =>
    rcases Handles.holds_of_put h.distinct hheld with hcopied | hbefore
    · exact .inl (Handles.holds_of_agent? hcopied)
    · exact .inl hbefore
  | report handle r => exact .inl hheld
  | drop handle => exact .inl (Handles.holds_of_drop h.distinct hheld)

/-- A step starts one agent, which has a handle then, or none. -/
theorem change_started (x : HandleStep σ) (l : Ledger) :
    (x.change l).1.started = l.started ∨
      (x.change l).1.started = l.started + 1 ∧ (x.change l).1.handles.holds l.started = true := by
  cases x with
  | start handle x =>
    have hagent : (l.handles.put handle (some l.started)).1.agent? handle = some l.started := by
      rw [Handles.agent?_put, if_pos rfl]
    exact .inr ⟨rfl, Handles.holds_of_agent? hagent⟩
  | _ => exact .inl rfl

theorem change_sound (h : l.Sound) (x : HandleStep σ) : (x.change l).1.Sound where
  distinct := by
    cases x with
    | start handle x => exact h.distinct.put _ _
    | empty handle => exact h.distinct.put _ _
    | clone handle copy => exact h.distinct.put _ _
    | report handle r => exact h.distinct
    | drop handle => exact h.distinct.drop _
  started := by
    intro n hheld
    have hgrows : l.started ≤ (x.change l).1.started := by
      rcases x.change_started l with hsame | ⟨hmore, -⟩
      · omega
      · omega
    rcases x.holds_of_change h hheld with hbefore | ⟨rfl, hmore⟩
    · have hlt := h.started n hbefore
      omega
    · omega

/-- A step gives up the agents that had a handle and have none after it. -/
theorem given_up_iff (h : l.Sound) (x : HandleStep σ) (n : Nat) :
    (x.change l).2 = some n ↔
      l.handles.holds n = true ∧ (x.change l).1.handles.holds n = false := by
  cases x with
  | start handle x => exact Handles.put_gone_iff h.distinct _ _ n
  | empty handle => exact Handles.put_gone_iff h.distinct _ _ n
  | clone handle copy => exact Handles.put_gone_iff h.distinct _ _ n
  | report handle r =>
    constructor
    · intro hnone
      cases hnone
    · intro hlost
      obtain ⟨hheld, hnot⟩ := hlost
      exact absurd (hheld.symm.trans hnot) Bool.noConfusion
  | drop handle => exact Handles.drop_gone_iff h.distinct _ n

/-- An agent has ended after a step if it had before, or is given up by the step. -/
theorem ended_iff (h : l.Sound) (x : HandleStep σ) (n : Nat) :
    (x.change l).1.Ended n ↔ l.Ended n ∨ (x.change l).2 = some n := by
  have hgone := x.given_up_iff h n
  have hstarted := x.change_started l
  rw [Ledger.Ended, Ledger.Ended]
  cases hbefore : l.handles.holds n with
  | true =>
    -- a held agent was started, and it ends if its last handle goes
    have hlt := h.started n hbefore
    have hgrown : n < (x.change l).1.started := by omega
    rw [hgone, hbefore]
    simp [hgrown]
  | false =>
    -- an agent without a handle only gets one by its start
    constructor
    · intro hended
      obtain ⟨hlt, hnot⟩ := hended
      refine .inl ⟨?_, rfl⟩
      by_contra hge
      rcases hstarted with hsame | ⟨hmore, hheld⟩
      · omega
      · have hn : n = l.started := by omega
        rw [hn, hheld] at hnot
        cases hnot
    · intro hended
      rcases hended with ⟨hlt, -⟩ | hgiven
      · have hnot : (x.change l).1.handles.holds n ≠ true := by
          intro hheld
          rcases x.holds_of_change h hheld with hheld | ⟨rfl, -⟩
          · rw [hbefore] at hheld
            cases hheld
          · omega
        exact ⟨by omega, by simpa using hnot⟩
      · rw [hgone, hbefore] at hgiven
        cases hgiven.1

theorem filter_deeds (x : HandleStep σ) (l : Ledger) (n : Nat) :
    (x.deeds l).filter (Deed.endsOf n) =
      if (x.change l).2 = some n then Deed.ends (some n) else [] := by
  have hopening : (x.opening l).filter (Deed.endsOf n) = [] := by
    cases x with
    | report handle r =>
      simp only [opening]
      cases l.handles.agent? handle with
      | none => rfl
      | some n => rfl
    | _ => rfl
  rw [deeds, List.filter_append, hopening, Deed.filter_ends, List.nil_append]

end HandleStep

theorem Ledger.after_sound (steps : List (HandleStep σ)) : (({} : Ledger).after steps).Sound := by
  induction steps using List.reverseRecOn with
  | nil => exact .empty
  | append_singleton steps x ih =>
    rw [after_concat]
    exact x.change_sound ih

/-- The deeds of a run hold the end of each agent that was started and has no handle any more, once
and in one piece, and of no other agent. -/
theorem Ledger.deeds_ends (steps : List (HandleStep σ)) (n : Nat) :
    (({} : Ledger).deeds steps).filter (Deed.endsOf n) =
      if (({} : Ledger).after steps).Ended n then Deed.ends (some n) else [] := by
  induction steps using List.reverseRecOn with
  | nil =>
    rw [if_neg fun h => Nat.not_lt_zero n h.1]
    rfl
  | append_singleton steps x ih =>
    have hsound : (({} : Ledger).after steps).Sound := after_sound steps
    rw [deeds_concat, after_concat, List.filter_append, ih, x.filter_deeds]
    by_cases hended : (({} : Ledger).after steps).Ended n
    · -- what has ended stays so and does not end again
      have hnot : ¬(x.change (({} : Ledger).after steps)).2 = some n := by
        rw [x.given_up_iff hsound, hended.2]
        simp
      rw [if_pos hended, if_neg hnot, if_pos ((x.ended_iff hsound n).2 (.inl hended)),
        List.append_nil]
    · rw [if_neg hended, List.nil_append]
      refine if_congr ?_ rfl rfl
      rw [x.ended_iff hsound]
      exact (or_iff_right hended).symm

end SelfTrace
