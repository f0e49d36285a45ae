import SelfTrace.Agent.Agents
import SelfTrace.Proofs.Histories
import SelfTrace.Proofs.Sharing
import SelfTrace.Proofs.Start

/-!
# Lives of agents

Handles are put, copied, reported to and dropped in any order, and agents are started on the way,
whatever their collaborators answer. A run of such steps does to the agents what the ledger says,
one deed after the other.

* `HandleStep.run`, `Deed.perform` — a run of steps, and a run of deeds;
* `HandleStep.run_eq` — a run of steps is the run of its deeds;
* `Books` — what the monitored values are after some deeds;
* `agents_lived` — the values that agents show, and when what they hold is given back.
-/

namespace SelfTrace

variable {σ : Type}

/-! ## Runs -/

namespace HandleStep

/-- Does a step. -/
def act : HandleStep σ → Agents σ → Act σ (Agents σ)
  | .start handle x, t => t.start handle 0 x.act
  | .empty handle, t => t.put handle none
  | .clone handle copy, t => t.clone handle copy
  | .report handle r, t => do
    t.report handle r.apply
    return t
  | .drop handle, t => t.drop handle

/-- Does some steps, one after the other, before which there are no handles. -/
def run (steps : List (HandleStep σ)) : Act σ (Agents σ) := steps.foldlM (fun t x => x.act t) {}

theorem run_concat (steps : List (HandleStep σ)) (x : HandleStep σ) (s : Scene σ) :
    (run (steps ++ [x])).runOn s =
      (x.act ((run steps).runOn s).1).runOn ((run steps).runOn s).2 := by
  rw [run, List.foldlM_append]
  rfl

end HandleStep

namespace Deed

/-- Does a deed to the agents that were started. -/
def act : Deed σ → List (Agent σ) → Act σ (List (Agent σ))
  | .start x, as => do return as ++ [← x.act]
  | .report n r, as => do
    as[n]?.forM fun a => Act.report a.monitors r.apply
    return as
  | .detach n, as => do
    (as[n]?.bind Agent.session).forM Grip.release
    return as
  | .unlink n, as => do
    (as[n]?.bind Agent.script).forM ScriptFile.remove
    return as

/-- Does some deeds, one after the other. -/
def perform (deeds : List (Deed σ)) (as : List (Agent σ)) : Act σ (List (Agent σ)) :=
  deeds.foldlM (fun as x => x.act as) as

theorem perform_cons (x : Deed σ) (deeds : List (Deed σ)) (as : List (Agent σ)) (s : Scene σ) :
    (perform (x :: deeds) as).runOn s =
      (perform deeds ((x.act as).runOn s).1).runOn ((x.act as).runOn s).2 :=
  rfl

theorem perform_append (before deeds : List (Deed σ)) (as : List (Agent σ)) (s : Scene σ) :
    (perform (before ++ deeds) as).runOn s =
      (perform deeds ((perform before as).runOn s).1).runOn ((perform before as).runOn s).2 := by
  rw [perform, List.foldlM_append]
  rfl

/-- To end an agent is to close it. -/
theorem perform_ends (t : Agents σ) (gone : Option Nat) (s : Scene σ) :
    (perform (ends gone) t.started).runOn s = (t.started, ((t.closed gone).runOn s).2) := by
  cases gone with
  | none => rfl
  | some n =>
    rw [ends, Agents.closed]
    cases h : t.started[n]? with
    | none => simp [perform, act, h]
    | some a =>
      cases hsession : a.session with
      | none =>
        cases hscript : a.script with
        | none => simp [perform, act, Agent.close, h, hsession, hscript]
        | some file => simp [perform, act, Agent.close, h, hsession, hscript]
      | some session =>
        cases hscript : a.script with
        | none => simp [perform, act, Agent.close, h, hsession, hscript]
        | some file => simp [perform, act, Agent.close, h, hsession, hscript]

end Deed

/-- The ledger of agents and handles. -/
def Agents.ledger (t : Agents σ) : Ledger := ⟨t.started.length, t.handles⟩

/-- To put a handle is to end the agent that is given up by it. -/
theorem Agents.put_eq (t : Agents σ) (handle : String) (agent : Option Nat) (s : Scene σ) :
    let ended := (Deed.perform (Deed.ends (t.handles.put handle agent).2) t.started).runOn s
    (t.put handle agent).runOn s = (⟨ended.1, (t.handles.put handle agent).1⟩, ended.2) := by
  rw [Deed.perform_ends]
  rfl

theorem Agents.drop_eq (t : Agents σ) (handle : String) (s : Scene σ) :
    let ended := (Deed.perform (Deed.ends (t.handles.drop handle).2) t.started).runOn s
    (t.drop handle).runOn s = (⟨ended.1, (t.handles.drop handle).1⟩, ended.2) := by
  rw [Deed.perform_ends]
  rfl

/-- A step does its deeds, and the ledger tells what handles there are after it. -/
theorem HandleStep.act_eq (x : HandleStep σ) (t : Agents σ) (s : Scene σ) :
    let done := (Deed.perform (x.deeds t.ledger) t.started).runOn s
    (x.act t).runOn s = (⟨done.1, (x.change t.ledger).1.handles⟩, done.2) := by
  cases x with
  | start handle x =>
    -- the agent is in the table when its handle is put
    have hput := Agents.put_eq ⟨t.started ++ [(x.act.runOn s).1], t.handles⟩ handle
      (some t.started.length) (x.act.runOn s).2
    exact hput
  | empty handle => exact t.put_eq handle none s
  | clone handle copy => exact t.put_eq copy (t.handles.agent? handle) s
  | report handle r =>
    have hagent : t.agent? handle = (t.handles.agent? handle).bind (t.started[·]?) := rfl
    simp only [deeds, opening, change, act, Agents.report, Agents.ledger, hagent]
    cases t.handles.agent? handle with
    | none => rfl
    | some n =>
      simp only [Option.bind_some]
      cases h : t.started[n]? with
      | none => simp [Deed.perform, Deed.ends, Deed.act, h]
      | some a => simp [Deed.perform, Deed.ends, Deed.act, h]
  | drop handle => exact t.drop_eq handle s

/-! ## What deeds add up to -/

/-- The values after some reports. -/
def Report.total (rs : List Report) : Monitors := rs.foldl (fun m r => r.apply m) {}

/-- The name in a report. -/
def Report.name? : Report → Option String
  | .generator name => some name
  | .task => none

/-- The name that is reported last, or an empty one. -/
def Report.lastName (rs : List Report) : String := (rs.filterMap Report.name?).getLast?.getD ""

theorem Report.total_concat (rs : List Report) (r : Report) :
    total (rs ++ [r]) = r.apply (total rs) := by
  rw [total, total, List.foldl_append]
  rfl

/-- The values show the last name, and the number of tasks as a word of 64 bits. -/
theorem Report.total_eq (rs : List Report) :
    total rs = ⟨lastName rs, UInt64.ofNat (rs.count .task)⟩ := by
  induction rs using List.reverseRecOn with
  | nil => rfl
  | append_singleton rs r ih =>
    rw [total_concat, ih]
    cases r with
    | generator name => simp [apply, Monitors.setGeneratorName, lastName, name?]
    | task => simp [apply, Monitors.addTask, lastName, name?]

namespace Deed

/-- The deed starts an agent. -/
def isStart : Deed σ → Bool
  | .start _ => true
  | _ => false

theorem length_perform (deeds : List (Deed σ)) (as : List (Agent σ)) (s : Scene σ) :
    ((perform deeds as).runOn s).1.length = as.length + deeds.countP isStart := by
  induction deeds generalizing as s with
  | nil => rfl
  | cons x deeds ih =>
    rw [perform_cons, ih, List.countP_cons]
    have hstep : ((x.act as).runOn s).1.length = as.length + if x.isStart then 1 else 0 := by
      cases x with
      | start x => exact List.length_append
      | _ => rfl
    omega

end Deed

theorem HandleStep.change_started_eq (x : HandleStep σ) (l : Ledger) :
    (x.change l).1.started = l.started + (x.deeds l).countP Deed.isStart := by
  have hends : ∀ gone, (Deed.ends gone : List (Deed σ)).countP Deed.isStart = 0 := by
    intro gone
    cases gone with
    | none => rfl
    | some n => rfl
  rw [deeds, List.countP_append, hends]
  cases x with
  | report handle r =>
    simp only [opening]
    cases l.handles.agent? handle with
    | none => rfl
    | some n => rfl
  | _ => rfl

/-! ## Runs are runs of deeds -/

theorem HandleStep.run_eq (steps : List (HandleStep σ)) (s : Scene σ) :
    let done := (Deed.perform (({} : Ledger).deeds steps) []).runOn s
    (run steps).runOn s = (⟨done.1, (({} : Ledger).after steps).handles⟩, done.2) ∧
      done.1.length = (({} : Ledger).after steps).started := by
  induction steps using List.reverseRecOn with
  | nil => exact ⟨rfl, rfl⟩
  | append_singleton steps x ih =>
    obtain ⟨hrun, hlength⟩ := ih
    have hledger : ((run steps).runOn s).1.ledger = ({} : Ledger).after steps := by
      rw [hrun, Agents.ledger]
      dsimp only
      rw [hlength]
    have hact := x.act_eq ((run steps).runOn s).1 ((run steps).runOn s).2
    rw [hledger] at hact
    rw [Ledger.deeds_concat, Ledger.after_concat, run_concat, Deed.perform_append]
    refine ⟨?_, ?_⟩
    · rw [hact, hrun]
    · rw [Deed.length_perform, hlength, x.change_started_eq]

/-! ## Starts -/

theorem monitors_unfiled : Act.Unfiled (Scene.monitors : Scene σ → _) := fun _ _ _ => rfl

/-- The tool of an agent does not change monitored values when it is taken down. -/
def Agent.ReleaseKeeps (a : Agent σ) : Prop :=
  ∀ grip, a.session = some grip → grip.release.Keeps Scene.monitors

theorem install_leaves {d : Collaborators σ} (hd : d.LeaveMonitors) (c : Config) (name : String)
    (maker : ScriptFile.Maker) (number : Nat) (s : Scene σ) :
    (Agent.install d c name maker { monitors := number }).Leads s fun x t =>
      x.1.monitors = number ∧ t.monitors = s.monitors ∧ x.1.ReleaseKeeps := by
  refine (hd.resolve.leads s).bind ?_
  intro pid t₁ hresolve
  cases pid with
  | none => exact .pure ⟨rfl, hresolve, nofun⟩
  | some pid =>
  refine (hd.locate.leads t₁).bind ?_
  intro answer t₂ hlocate
  rw [hresolve] at hlocate
  cases answer with
  | error e => exact .pure ⟨rfl, hlocate, nofun⟩
  | ok tool =>
  refine ((provisionScript_keeps monitors_unfiled d c maker hd.provision).leads t₂).bind ?_
  intro answer t₃ hprovision
  rw [hlocate] at hprovision
  cases answer with
  | error e => exact .pure ⟨rfl, hprovision, nofun⟩
  | ok made =>
  have hattach : (d.attach pid tool ⟨c.listener, made.2⟩).Leads t₃ fun answer t =>
      t.monitors = t₃.monitors ∧
        ∀ grip, answer = .ok grip → grip.release.Keeps Scene.monitors :=
    ⟨hd.attach _ _ _ t₃, hd.release _ _ _ t₃⟩
  refine hattach.bind ?_
  intro answer t₄ hattached
  obtain ⟨hattach, hrelease⟩ := hattached
  rw [hprovision] at hattach
  cases answer with
  | error e => exact .pure ⟨rfl, hattach, nofun⟩
  | ok grip =>
  have hkeeps := hrelease grip rfl
  refine ((Act.Keeps.emit monitors_unfiled _).leads t₄).bind ?_
  intro _ t₅ hemit
  rw [hattach] at hemit
  refine ((hd.register c.metricsNamespace name number).leads t₅).bind ?_
  intro answer t₆ hregister
  rw [hemit] at hregister
  cases answer with
  | ok _ =>
    refine .pure ⟨rfl, hregister, ?_⟩
    intro kept hkept
    cases hkept
    exact hkeeps
  | error e =>
    -- the tool is taken down again, and the agent has none
    refine (hkeeps.leads t₆).bind ?_
    intro _ t₇ hreleased
    exact .pure ⟨rfl, hreleased.trans hregister, nofun⟩

/-- A start adds values to those that there are, and the tool that it leaves attached does not
change any. -/
theorem Starting.act_leads (x : Starting σ) (s : Scene σ) :
    x.act.Leads s fun a t => a.monitors = s.monitors.length ∧
      t.monitors = s.monitors ++ [({} : Monitors)] ∧ a.ReleaseKeeps := by
  refine Act.Leads.bind (P := fun number t => number = s.monitors.length ∧
    t.monitors = s.monitors ++ [({} : Monitors)]) ⟨rfl, rfl⟩ ?_
  intro number t₁ hnew
  obtain ⟨rfl, hnew⟩ := hnew
  refine (install_leaves x.leave x.config _ x.maker s.monitors.length t₁).bind ?_
  intro y t₂ hinstalled
  obtain ⟨a, outcome⟩ := y
  rw [hnew] at hinstalled
  -- what is left writes to the log and tells the outcome by the state
  cases outcome with
  | ok _ => exact hinstalled
  | error e => exact hinstalled

/-- Collaborators that share a registry are such as starts ask for, whatever else they do. -/
theorem Collaborators.sharing_leaveMonitors (d : Collaborators σ) : d.sharing.LeaveMonitors where
  resolve := fun s => (Act.Quiet.beside d.resolve s).2
  locate := fun s => (Act.Quiet.beside d.locate s).2
  provision := fun resource file s => (Act.Quiet.beside (d.provision resource file) s).2
  attach := fun pid tool options s => (attach_leads d pid tool options s).1.2
  release := by
    intro pid tool options s grip hanswer t
    exact ((attach_leads d pid tool options s).2 grip hanswer t).2
  register := fun ns name number s => (registerIn_leads ns name number s).2

/-! ## Values -/

/-- What the monitored values are after some deeds: each agent has values of its own, which show
the reports that it was given. The first `k` values are others'. -/
structure Books (k : Nat) (deeds : List (Deed σ)) (as : List (Agent σ)) (s : Scene σ) : Prop where
  count : s.monitors.length = k + as.length
  number : ∀ n a, as[n]? = some a → a.monitors = k + n
  values : ∀ n, n < as.length →
    s.monitors[k + n]? = some (Report.total (Deed.reportsTo n deeds))
  unreported : ∀ n, as.length ≤ n → Deed.reportsTo n deeds = []
  release : ∀ a ∈ as, a.ReleaseKeeps

namespace Books

variable {k : Nat} {deeds : List (Deed σ)} {as : List (Agent σ)} {s t : Scene σ}

/-- A deed that reports nothing and changes no values. -/
theorem quiet (h : Books k deeds as s) (ht : t.monitors = s.monitors) {x : Deed σ}
    (hx : ∀ n, Deed.reportsTo n [x] = []) : Books k (deeds ++ [x]) as t where
  count := by rw [ht, h.count]
  number := h.number
  values := by
    intro n hn
    rw [ht, h.values n hn, Deed.reportsTo_append, hx, List.append_nil]
  unreported := by
    intro n hn
    rw [Deed.reportsTo_append, hx, h.unreported n hn, List.append_nil]
  release := h.release

theorem start (h : Books k deeds as s) (x : Starting σ) {a : Agent σ}
    (hnumber : a.monitors = s.monitors.length)
    (ht : t.monitors = s.monitors ++ [({} : Monitors)]) (hrelease : a.ReleaseKeeps) :
    Books k (deeds ++ [.start x]) (as ++ [a]) t where
  count := by
    rw [ht, List.length_append, List.length_append, h.count]
    rfl
  number := by
    intro n b hb
    rw [List.getElem?_append] at hb
    split at hb
    · exact h.number n b hb
    · next hn =>
      rw [List.getElem?_singleton] at hb
      split at hb
      · cases hb
        rw [hnumber, h.count]
        omega
      · cases hb
  values := by
    intro n hn
    have hlength := h.count
    have hnone : Deed.reportsTo n [Deed.start x] = [] := rfl
    rw [List.length_append, List.length_singleton] at hn
    rw [ht, Deed.reportsTo_append, hnone, List.append_nil, List.getElem?_append]
    split
    · exact h.values n (by omega)
    · -- the values of the new agent
      have hnew : n = as.length := by omega
      rw [h.unreported n (by omega), hlength, hnew, Nat.sub_self]
      rfl
  unreported := by
    intro n hn
    rw [List.length_append, List.length_singleton] at hn
    rw [Deed.reportsTo_append, h.unreported n (by omega)]
    rfl
  release := by
    intro b hb
    rcases List.mem_append.1 hb with hb | hb
    · exact h.release b hb
    · rw [List.mem_singleton.1 hb]
      exact hrelease

theorem report (h : Books k deeds as s) (r : Report) {n : Nat} {a : Agent σ}
    (ha : as[n]? = some a) (ht : t.monitors = s.monitors.modify a.monitors r.apply) :
    Books k (deeds ++ [.report n r]) as t where
  count := by rw [ht, List.length_modify, h.count]
  number := h.number
  values := by
    intro m hm
    rw [ht, h.number n a ha, List.getElem?_modify, h.values m hm, Deed.reportsTo_append]
    by_cases hnm : n = m
    · simp [hnm, Deed.reportsTo, Deed.reportTo?, Report.total_concat]
    · simp [hnm, Deed.reportsTo, Deed.reportTo?]
  unreported := by
    intro m hm
    have hn : n < as.length := (List.getElem?_eq_some_iff.1 ha).1
    have hnm : n ≠ m := by omega
    rw [Deed.reportsTo_append, h.unreported m hm]
    simp [Deed.reportsTo, Deed.reportTo?, hnm]
  release := h.release

/-- What one deed makes of the values, if it reports to no agent that is yet to be started. -/
theorem act (h : Books k deeds as s) (x : Deed σ) (hx : ∀ n r, x = .report n r → n < as.length) :
    (x.act as).Leads s fun as' t => Books k (deeds ++ [x]) as' t := by
  cases x with
  | start x =>
    refine (x.act_leads s).bind ?_
    intro a t hstarted
    obtain ⟨hnumber, hmonitors, hrelease⟩ := hstarted
    exact .pure (h.start x hnumber hmonitors hrelease)
  | report n r =>
    have ha := List.getElem?_eq_getElem (hx n r rfl)
    rw [Deed.act, ha]
    exact h.report r ha rfl
  | detach n =>
    have hkeeps : ((as[n]?.bind Agent.session).forM Grip.release).Keeps Scene.monitors := by
      cases hsession : as[n]?.bind Agent.session with
      | none => exact .pure ()
      | some grip =>
        obtain ⟨a, ha, hgrip⟩ := Option.bind_eq_some_iff.1 hsession
        exact h.release a (List.mem_of_getElem? ha) grip hgrip
    exact h.quiet (hkeeps s) fun _ => rfl
  | unlink n =>
    have hkeeps : ((as[n]?.bind Agent.script).forM (ScriptFile.remove : Path → Act σ Unit)).Keeps
        Scene.monitors := by
      cases as[n]?.bind Agent.script with
      | none => exact .pure ()
      | some file => exact ScriptFile.remove_keeps monitors_unfiled file
    exact h.quiet (hkeeps s) fun _ => rfl

theorem perform (h : Books k deeds as s) (xs : List (Deed σ))
    (hxs : ∀ n r, .report n r ∈ xs → n < as.length) :
    (Deed.perform xs as).Leads s fun as' t => Books k (deeds ++ xs) as' t := by
  induction xs generalizing deeds as s with
  | nil =>
    rw [List.append_nil]
    exact h
  | cons x xs ih =>
    have hx := h.act x fun n r hreport => hxs n r (hreport ▸ List.mem_cons_self)
    have hmore := Deed.length_perform [x] as s
    have hrest := ih hx (by
      intro n r hreport
      have hn := hxs n r (List.mem_cons_of_mem x hreport)
      have hlength : ((x.act as).runOn s).1.length = as.length + [x].countP Deed.isStart := hmore
      omega)
    rw [List.append_assoc] at hrest
    exact hrest

end Books

/-- A step reports only to an agent that has a handle. -/
theorem HandleStep.holds_of_report {x : HandleStep σ} {l : Ledger} {n : Nat} {r : Report}
    (h : .report n r ∈ x.deeds l) : l.handles.holds n = true := by
  have hends : ∀ gone, Deed.report n r ∉ (Deed.ends gone : List (Deed σ)) := by
    intro gone
    cases gone with
    | none => simp [Deed.ends]
    | some m => simp [Deed.ends]
  have hopening := (List.mem_append.1 h).resolve_right (hends _)
  cases x with
  | start handle x => simp [opening] at hopening
  | report handle r' =>
    simp only [opening] at hopening
    split at hopening
    · next m hagent =>
      simp only [List.mem_singleton, Deed.report.injEq] at hopening
      rw [hopening.1]
      exact Handles.holds_of_agent? hagent
    · simp at hopening
  | _ => cases hopening

theorem HandleStep.run_books (steps : List (HandleStep σ)) (s : Scene σ) :
    (Deed.perform (({} : Ledger).deeds steps) []).Leads s fun as t =>
      Books s.monitors.length (({} : Ledger).deeds steps) as t := by
  induction steps using List.reverseRecOn with
  | nil => exact ⟨rfl, nofun, nofun, fun _ _ => rfl, nofun⟩
  | append_singleton steps x ih =>
    have hlength := (run_eq steps s).2
    rw [Ledger.deeds_concat, Act.Leads, Deed.perform_append]
    refine Books.perform ih (x.deeds _) ?_
    intro n r hreport
    rw [hlength]
    exact (Ledger.after_sound steps).started n (holds_of_report hreport)

/-! ## The end -/

/-- The agents that were started stay as they are. -/
theorem Deed.isPrefix_perform (deeds : List (Deed σ)) (as : List (Agent σ)) (s : Scene σ) :
    as <+: ((perform deeds as).runOn s).1 := by
  induction deeds generalizing as s with
  | nil => exact List.prefix_rfl
  | cons x deeds ih =>
    have hstep : as <+: ((x.act as).runOn s).1 := by
      cases x with
      | start x => exact List.prefix_append _ _
      | _ => exact List.prefix_rfl
    exact hstep.trans (ih _ _)

/-- At the end of an agent its script is removed, if it has one. -/
theorem Deed.holdsFile_ends {as : List (Agent σ)} {n : Nat} {a : Agent σ} {file : Path}
    (ha : as[n]? = some a) (hfile : a.script = some file) (s : Scene σ) :
    ((perform (ends (some n)) as).runOn s).2.files.holdsFile file = false := by
  have hscript : as[n]?.bind Agent.script = some file := by rw [ha, Option.bind_some, hfile]
  have hunlink : ∀ t : Scene σ,
      ((act (.unlink n) as).runOn t).2 = ((ScriptFile.remove file).runOn t).2 := by
    intro t
    rw [act, hscript]
    rfl
  rw [ends, perform_cons, perform_cons]
  show ((act (.unlink n) as).runOn _).2.files.holdsFile file = false
  rw [hunlink]
  exact ScriptFile.holdsFile_remove file _

/-- The script of an agent that a step gives up is gone after the step. -/
theorem HandleStep.holdsFile_act (x : HandleStep σ) {t : Agents σ} {n : Nat} {a : Agent σ}
    {file : Path} (ha : t.started[n]? = some a) (hfile : a.script = some file)
    (hgone : (x.change t.ledger).2 = some n) (s : Scene σ) :
    ((x.act t).runOn s).2.files.holdsFile file = false := by
  rw [x.act_eq t s, deeds, hgone, Deed.perform_append]
  -- the agent is still in its place when it ends
  obtain ⟨more, hmore⟩ := Deed.isPrefix_perform (x.opening t.ledger) t.started s
  have hn := (List.getElem?_eq_some_iff.1 ha).1
  refine Deed.holdsFile_ends ?_ hfile _
  rw [← hmore, List.getElem?_append_left hn, ha]

/-! ## Lives -/

/-- What some steps come to, which have led from a scene to some agents and another scene. Which
agents have a handle is told by the steps. -/
structure Lived (s₀ : Scene σ) (steps : List (HandleStep σ)) (t : Agents σ) (s : Scene σ) :
    Prop where
  /-- The deeds of the ledger were done, one after the other, and nothing else. -/
  done : (Deed.perform (({} : Ledger).deeds steps) []).runOn s₀ = (t.started, s)
  ledger : t.ledger = ({} : Ledger).after steps
  started : t.started.length = (History.of steps).started
  /-- Each handle leads where the steps have put it, and one that was dropped leads nowhere. -/
  leads : ∀ handle, t.handles.agent? handle = (History.of steps).leads handle
  /-- An agent shows the last name that was reported through its handles, and the number of tasks as
  a word. -/
  values : ∀ n (a : Agent σ), t.started[n]? = some a → s.monitors[a.monitors]? =
    some ⟨Report.lastName ((History.of steps).reports n),
      UInt64.ofNat (((History.of steps).reports n).count .task)⟩
  /-- A report to a handle that leads nowhere is ignored. -/
  ignored : ∀ handle r, (History.of steps).leads handle = none →
    ((HandleStep.report handle r).act t).runOn s = (t, s)
  /-- A report to an agent does not change the values of another. -/
  others : ∀ handle r n m (a : Agent σ), (History.of steps).leads handle = some n →
    t.started[m]? = some a → m ≠ n →
      (((HandleStep.report handle r).act t).runOn s).2.monitors[a.monitors]? =
        s.monitors[a.monitors]?
  /-- An agent that was started and has no handle has ended once. -/
  ended : ∀ n, n < (History.of steps).started → ¬(History.of steps).Held n →
    (({} : Ledger).deeds steps).filter (Deed.endsOf n) = [.detach n, .unlink n]
  /-- An agent that has a handle, or was not started, has not ended. -/
  unended : ∀ n, (History.of steps).started ≤ n ∨ (History.of steps).Held n →
    (({} : Ledger).deeds steps).filter (Deed.endsOf n) = []
  /-- The deeds of one more step follow. -/
  next : ∀ x : HandleStep σ,
    ({} : Ledger).deeds (steps ++ [x]) = ({} : Ledger).deeds steps ++ x.deeds t.ledger
  /-- An agent ends by the step by which it loses its last handle. -/
  ends : ∀ (x : HandleStep σ) n, (History.of steps).Held n → ¬(History.of (steps ++ [x])).Held n →
    (x.deeds t.ledger).filter (Deed.endsOf n) = [.detach n, .unlink n]
  /-- No other agent ends by a step. -/
  spares : ∀ (x : HandleStep σ) n, ¬(History.of steps).Held n ∨ (History.of (steps ++ [x])).Held n →
    (x.deeds t.ledger).filter (Deed.endsOf n) = []
  /-- The script of an agent is gone after the step by which the agent loses its last handle. -/
  removed : ∀ (x : HandleStep σ) n (a : Agent σ) file, t.started[n]? = some a →
    a.script = some file → (History.of steps).Held n → ¬(History.of (steps ++ [x])).Held n →
      ((x.act t).runOn s).2.files.holdsFile file = false

/-- Agents show the reports that were made through their own handles, and what an agent holds is
given back once, the tool before the script, when its last handle goes. -/
theorem agents_lived (steps : List (HandleStep σ)) (s₀ : Scene σ) :
    (HandleStep.run steps).Leads s₀ (Lived s₀ steps) := by
  obtain ⟨hrun, hlength⟩ := HandleStep.run_eq steps s₀
  have hbooks := HandleStep.run_books steps s₀
  have hsound : (({} : Ledger).after steps).Sound := Ledger.after_sound steps
  have hagrees := Ledger.after_agrees steps
  rw [Act.Leads, hrun]
  rw [Act.Leads] at hbooks
  rcases hdone : (Deed.perform (({} : Ledger).deeds steps) []).runOn s₀ with ⟨as, s⟩
  rw [hdone] at hlength hbooks
  dsimp only at hlength hbooks ⊢
  have hledger : (⟨as, (({} : Ledger).after steps).handles⟩ : Agents σ).ledger =
      ({} : Ledger).after steps := by
    rw [Agents.ledger, hlength]
  -- a step gives up an agent exactly if the history tells that its last handle goes
  have hgivenUp : ∀ (x : HandleStep σ) n, (x.change (({} : Ledger).after steps)).2 = some n ↔
      (History.of steps).Held n ∧ ¬(History.of (steps ++ [x])).Held n := by
    intro x n
    rw [x.given_up_iff hsound, ← hagrees.holds_iff hsound, History.of_concat,
      ← (hagrees.change x).holds_iff (x.change_sound hsound), Bool.not_eq_true]
  refine ⟨hdone, hledger, hlength.trans hagrees.started, hagrees.leads, ?values, ?ignored, ?others,
    ?ended, ?unended, ?next, ?ends, ?spares, ?removed⟩
  case values =>
    intro n a ha
    have hn := (List.getElem?_eq_some_iff.1 ha).1
    rw [hbooks.number n a ha, hbooks.values n hn, Ledger.reportsTo_deeds, Report.total_eq]
  case ignored =>
    intro handle r hnowhere
    rw [← hagrees.leads] at hnowhere
    simp [HandleStep.act, Agents.report, Agents.agent?, hnowhere]
  case others =>
    intro handle r n m a hagent ha hne
    rw [← hagrees.leads] at hagent
    rw [HandleStep.act, Agents.report, Agents.agent?, hagent, Option.bind_some]
    cases hn : as[n]? with
    | none => rfl
    | some b =>
      -- the two agents have values of their own
      have hnumbers : b.monitors ≠ a.monitors := by
        rw [hbooks.number n b hn, hbooks.number m a ha]
        omega
      simp [hnumbers]
  case ended =>
    intro n hstarted hnone
    rw [Ledger.deeds_ends, if_pos ((hagrees.ended_iff hsound n).2 ⟨hstarted, hnone⟩)]
    rfl
  case unended =>
    intro n hheld
    rw [Ledger.deeds_ends, if_neg]
    rw [hagrees.ended_iff hsound]
    rintro ⟨hstarted, hnone⟩
    exact hheld.elim (Nat.not_le.2 hstarted) hnone
  case next =>
    intro x
    rw [hledger]
    exact Ledger.deeds_concat {} steps x
  case ends =>
    intro x n hheld hgone
    rw [hledger, x.filter_deeds, if_pos ((hgivenUp x n).2 ⟨hheld, hgone⟩)]
    rfl
  case spares =>
    intro x n hkept
    rw [hledger, x.filter_deeds, if_neg]
    rw [hgivenUp]
    rintro ⟨hheld, hgone⟩
    exact hkept.elim (absurd hheld) hgone
  case removed =>
    intro x n a file ha hfile hheld hgone
    refine x.holdsFile_act ha hfile ?_ s
    rw [hledger]
    exact (hgivenUp x n).2 ⟨hheld, hgone⟩

end SelfTrace
