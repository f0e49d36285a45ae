import SelfTrace.Introspection.ProcessTable
import SelfTrace.Introspection.Recorded
import SelfTrace.Proofs.NamedIds
import SelfTrace.Proofs.Watched

/-!
# The calls of a resolution

A resolution runs probes in order until one succeeds. The calls that the probes make on the
introspector are noted, and so are the names that they are given and the end of each probe; whatever
the introspector answers, the calls of one probe form a block:

* `Visits` — processes are attached one after the other, each detached before the next;
* `Bracketed` — a value is published, processes are visited, and the value is retracted at the end;
* `Strategy.NameBlock` — what a probe by a name calls is told by the name;
* `Resolution` — one block for each probe that is run, and none after the first that succeeds;
* `resolve_brackets` — every resolution is of this form, and leaves nothing open.

A probe by the runtime's name makes no call at all when there is no name, or no id in it, and else
its calls are bracketed.
-/

namespace SelfTrace

variable {σ τ : Type}

/-! ## What is noted -/

/-- A name that a probe was given, a call on the introspector, or the end of a probe. -/
inductive ProbeNote where
  | named (name : Option String)
  | call (c : IntrospectCall)
  | ended (outcome : Except ProbeError ProcessId)

/-- An introspector whose calls are noted. -/
def Introspector.watched (i : Introspector σ τ) :
    Introspector (Watched ProbeNote σ) (ProcessId × τ) :=
  recorded (fun c => Watched.note (.call c)) (i.on Watched.part)

/-- A way to find the own process id: one of the probes, or one that leaves the introspector
alone. -/
inductive Strategy (σ : Type) where
  | procStat (path : Path)
  | marker
  | runtimeName (source : Act σ (Option String))
  | other (probe : Probe σ)

namespace Strategy

/-- The probe of a strategy. -/
def probe (i : Introspector σ τ) : Strategy σ → Probe σ
  | .procStat path => .procStat path
  | .marker => .marker i
  | .runtimeName source => .runtimeName source i
  | .other p => p

/-- A strategy on a state with a record; the name that its source gives is noted. -/
def lifted : Strategy σ → Strategy (Watched ProbeNote σ)
  | .procStat path => .procStat path
  | .marker => .marker
  | .runtimeName source => .runtimeName (source.watching .named)
  | .other p => .other ⟨p.name, p.run.on Watched.part⟩

/-- The probe of a strategy; its calls and its end are noted. -/
def watchedProbe (i : Introspector σ τ) (k : Strategy σ) : Probe (Watched ProbeNote σ) where
  name := (k.probe i).name
  run := do
    let outcome ← (k.lifted.probe i.watched).run
    Watched.note (.ended outcome)
    return outcome

end Strategy

/-! ## Blocks of calls -/

/-- Visits to processes: each attach fails, or is followed by one read and one detach of the same
process. -/
inductive Visits : List IntrospectCall → Prop where
  | nil : Visits []
  | refused (pid : ProcessId) {calls : List IntrospectCall} (h : Visits calls) :
      Visits (.attach pid false :: calls)
  | visited (pid : ProcessId) (key : String) (read detached : Bool) {calls : List IntrospectCall}
      (h : Visits calls) :
      Visits (.attach pid true :: .get pid key read :: .detach pid detached :: calls)

theorem Visits.append {first rest : List IntrospectCall} (h : Visits first) (h' : Visits rest) :
    Visits (first ++ rest) := by
  induction h with
  | nil => exact h'
  | refused pid _ ih => exact .refused pid ih
  | visited pid key read detached _ ih => exact .visited pid key read detached ih

/-- At most one listing of processes, then visits. -/
inductive Scan : List IntrospectCall → Prop where
  | visits {calls : List IntrospectCall} (h : Visits calls) : Scan calls
  | listed (ok : Bool) {calls : List IntrospectCall} (h : Visits calls) :
      Scan (.candidates ok :: calls)

/-- The calls around a published value: the publication fails, or what is published is retracted
once, by the last call. -/
inductive Bracketed : List IntrospectCall → Prop where
  | refused (key value : String) : Bracketed [.publish key value false]
  | held (key value : String) {calls : List IntrospectCall} (h : Scan calls) :
      Bracketed (.publish key value true :: (calls ++ [.retract key]))

/-- The calls of a probe by a name, and how it ends: without an id in the name there is no call, and
the probe fails. -/
inductive Strategy.NameBlock :
    Option String → List IntrospectCall → Except ProbeError ProcessId → Prop where
  | unnamed : NameBlock none [] (.error (.unavailable "runtime name"))
  | unread {name : String} (reason : String) (h : ∀ p, ¬NamesId name p) :
      NameBlock (some name) [] (.error (.malformed reason))
  | told {name : String} {p : ProcessId} {calls : List IntrospectCall}
      {outcome : Except ProbeError ProcessId} (h : NamesId name p) (hcalls : Bracketed calls) :
      NameBlock (some name) calls outcome

/-- The names that a probe is given and the calls that it makes, by its strategy and how it ends. -/
def Strategy.Block : Strategy σ → List (Option String) → List IntrospectCall →
    Except ProbeError ProcessId → Prop
  | .procStat _, names, calls, _ => names = [] ∧ calls = []
  | .other _, names, calls, _ => names = [] ∧ calls = []
  | .marker, names, calls, _ => names = [] ∧ Bracketed calls
  | .runtimeName _, names, calls, outcome => ∃ name, names = [name] ∧ NameBlock name calls outcome

/-! ## Reading properties -/

/-- The notes are those of calls of a given form. -/
def CallsOf (P : List IntrospectCall → Prop) (notes : List ProbeNote) : Prop :=
  ∃ calls, notes = calls.map .call ∧ P calls

theorem CallsOf.append {P Q R : List IntrospectCall → Prop} {first rest : List ProbeNote}
    (h : CallsOf P first) (h' : CallsOf Q rest) (happend : ∀ a b, P a → Q b → R (a ++ b)) :
    CallsOf R (first ++ rest) := by
  obtain ⟨a, rfl, ha⟩ := h
  obtain ⟨b, rfl, hb⟩ := h'
  exact ⟨a ++ b, by rw [List.map_append], happend a b ha hb⟩

namespace Introspector

theorem publish_mirrors (i : Introspector σ τ) (key value : String) (s : Scene σ) :
    (i.watched.publish key value).Mirrors (i.publish key value) s fun x y notes _ =>
      x = y ∧ notes = [.call (.publish key value y.toBool)] := by
  intro record
  exact ⟨[.call (.publish key value _)], rfl, rfl, rfl⟩

theorem retract_mirrors (i : Introspector σ τ) (key : String) (s : Scene σ) :
    (i.watched.retract key).Mirrors (i.retract key) s fun _ _ notes _ =>
      notes = [.call (.retract key)] := by
  intro record
  exact ⟨[.call (.retract key)], rfl, rfl⟩

theorem candidates_mirrors (i : Introspector σ τ) (s : Scene σ) :
    i.watched.candidates.Mirrors i.candidates s fun x y notes _ =>
      x = y ∧ notes = [.call (.candidates y.toBool)] := by
  intro record
  exact ⟨[.call (.candidates _)], rfl, rfl, rfl⟩

theorem attach_mirrors (i : Introspector σ τ) (pid : ProcessId) (s : Scene σ) :
    (i.watched.attach pid).Mirrors (i.attach pid) s fun x y notes _ =>
      x = y.map (fun table => (pid, table)) ∧ notes = [.call (.attach pid y.toBool)] := by
  intro record
  exact ⟨[.call (.attach pid _)], rfl, rfl, rfl⟩

theorem get_mirrors (i : Introspector σ τ) (pid : ProcessId) (table : τ) (key : String)
    (s : Scene σ) :
    (i.watched.get (pid, table) key).Mirrors (i.get table key) s fun x y notes _ =>
      x = y ∧ notes = [.call (.get pid key y.toBool)] := by
  intro record
  exact ⟨[.call (.get pid key _)], rfl, rfl, rfl⟩

theorem detach_mirrors (i : Introspector σ τ) (pid : ProcessId) (table : τ) (s : Scene σ) :
    (i.watched.detach (pid, table)).Mirrors (i.detach table) s fun x y notes _ =>
      x.2 = y.2 ∧ notes = [.call (.detach pid y.2.toBool)] := by
  intro record
  exact ⟨[.call (.detach pid _)], rfl, rfl, rfl⟩

end Introspector

theorem opened_mirrors (i : Introspector σ τ) (pid : ProcessId) (s : Scene σ) :
    (Attachment.opened i.watched pid).Mirrors (Attachment.opened i pid) s fun x y notes _ =>
      x = y.map (fun a => ⟨a.pid, (a.pid, a.table)⟩) ∧ (∀ a, y = .ok a → a.pid = pid) ∧
        notes = [.call (.attach pid y.toBool)] := by
  refine (i.attach_mirrors pid s).bind ?_
  rintro _ answer _ t - ⟨rfl, rfl⟩
  cases answer with
  | error e => exact .pure ⟨rfl, by simp, rfl⟩
  | ok table => exact .pure ⟨rfl, by rintro _ ⟨⟩; rfl, rfl⟩

theorem close_mirrors (i : Introspector σ τ) (pid : ProcessId) (table : τ) (s : Scene σ) :
    (Attachment.close i.watched ⟨pid, (pid, table)⟩).Mirrors (Attachment.close i ⟨pid, table⟩) s
      fun _ _ notes _ => ∃ detached, notes = [.call (.detach pid detached)] := by
  refine (i.detach_mirrors pid table s).bind ?_
  rintro ⟨table', outcome'⟩ ⟨table'', outcome⟩ _ t - ⟨houtcome, rfl⟩
  cases houtcome
  cases outcome' with
  | ok _ => exact .pure ⟨_, rfl⟩
  | error e =>
    refine (Act.Mirrors.emit _ t).mono ?_
    rintro _ _ _ _ ⟨-, rfl⟩
    exact ⟨_, rfl⟩

/-- Reading a property is one visit. -/
theorem readProperty_mirrors (i : Introspector σ τ) (pid : ProcessId) (key : String)
    (s : Scene σ) :
    (readProperty i.watched pid key).Mirrors (readProperty i pid key) s fun x y notes _ =>
      x = y ∧ CallsOf Visits notes := by
  refine (opened_mirrors i pid s).bind ?_
  rintro _ answer _ t - ⟨rfl, hpid, rfl⟩
  cases answer with
  | error e =>
    refine (Act.Mirrors.emit _ t).bind ?_
    rintro _ _ _ t' - ⟨-, rfl⟩
    exact .pure ⟨rfl, [.attach pid false], rfl, .refused pid .nil⟩
  | ok a =>
    obtain ⟨pid, table⟩ := a
    cases hpid _ rfl
    -- the visit ends in the same way whether the property was read or not
    have hclose : ∀ (value : Option String) (read : Bool) (t : Scene σ),
        (Attachment.close i.watched ⟨pid, (pid, table)⟩ >>= fun _ => pure value).Mirrors
          (Attachment.close i ⟨pid, table⟩ >>= fun _ => pure value) t fun x y notes _ => x = y ∧
            CallsOf Visits (.call (.attach pid true) :: .call (.get pid key read) :: notes) := by
      intro value read t
      refine (close_mirrors i pid table t).bind ?_
      rintro _ _ _ _ - ⟨detached, rfl⟩
      exact .pure ⟨rfl, [.attach pid true, .get pid key read, .detach pid detached], rfl,
        .visited pid key read detached .nil⟩
    refine (i.get_mirrors pid table key t).bind ?_
    rintro answer _ _ t' - ⟨rfl, rfl⟩
    cases answer with
    | ok value =>
      refine Act.Mirrors.bind (P := Act.Unnoted) (.pure ⟨rfl, rfl⟩) ?_
      rintro _ _ _ t'' - ⟨rfl, rfl⟩
      exact hclose _ _ t''
    | error e =>
      refine (Act.Mirrors.emit _ t').bind ?_
      rintro _ _ _ t'' - ⟨-, rfl⟩
      exact hclose none _ t''

/-- The search for a process visits those in front of the one that it finds. -/
theorem firstShowing_mirrors (i : Introspector σ τ) (key value : String) (pids : List ProcessId) :
    ∀ s : Scene σ, (Probe.firstShowing i.watched key value pids).Mirrors
      (Probe.firstShowing i key value pids) s fun x y notes _ => x = y ∧ CallsOf Visits notes := by
  induction pids with
  | nil =>
    intro s
    exact .pure ⟨rfl, [], rfl, .nil⟩
  | cons pid pids ih =>
    intro s
    refine (readProperty_mirrors i pid key s).bind ?_
    rintro shown _ first t - ⟨rfl, hfirst⟩
    by_cases hshown : shown == some value
    · -- the search stops here, and the processes behind are not visited
      simp only [hshown, if_true]
      refine .pure ⟨rfl, ?_⟩
      rw [List.append_nil]
      exact hfirst
    · simp only [hshown]
      refine (ih t).mono ?_
      rintro _ _ rest _ ⟨rfl, hrest⟩
      exact ⟨rfl, hfirst.append hrest fun _ _ => Visits.append⟩

/-! ## Probes -/

/-- What is published for an action is retracted after it, whatever happens in it. -/
theorem publishing_mirrors {α : Type} (i : Introspector σ τ) (key value : String)
    {body : Act (Watched ProbeNote σ) α} {plain : Act σ α} (s : Scene σ)
    (hbody : ∀ t, body.Mirrors plain t fun x y notes _ => x = y ∧ CallsOf Scan notes) :
    (publishing i.watched key value body).Mirrors (publishing i key value plain) s
      fun x y notes _ => x = y ∧ CallsOf Bracketed notes := by
  refine Act.Mirrors.bind (P := fun x y notes _ => x = y ∧
    notes = [.call (.publish key value y.toBool)] ∧ ∀ p, y = .ok p → p.key = key) ?_ ?_
  · refine (i.publish_mirrors key value s).bind ?_
    rintro answer _ _ t - ⟨rfl, rfl⟩
    cases answer with
    | ok _ => exact .pure ⟨rfl, rfl, by rintro _ ⟨⟩; rfl⟩
    | error e => exact .pure ⟨rfl, rfl, by simp⟩
  · rintro answer _ _ t - ⟨rfl, rfl, hkey⟩
    cases answer with
    | error e => exact .pure ⟨rfl, _, rfl, .refused key value⟩
    | ok p =>
      -- the result of the action is only looked at after the retraction
      refine (hbody t).bind ?_
      rintro result _ _ t' - ⟨rfl, calls, rfl, hcalls⟩
      refine (i.retract_mirrors p.key t').bind ?_
      rintro _ _ _ t'' - rfl
      refine .pure ⟨rfl, .publish key value true :: (calls ++ [.retract key]), ?_,
        .held key value hcalls⟩
      rw [hkey p rfl]
      simp [Except.toBool]

theorem marker_mirrors (i : Introspector σ τ) (s : Scene σ) :
    (Probe.marker i.watched).run.Mirrors (Probe.marker i).run s fun x y notes _ =>
      x = y ∧ CallsOf Bracketed notes := by
  refine (Act.Mirrors.freshToken s).bind ?_
  rintro token _ _ t - ⟨rfl, rfl⟩
  refine (publishing_mirrors i markerKey token t ?_).bind ?_
  · intro t
    refine (i.candidates_mirrors t).bind ?_
    rintro answer _ _ t' - ⟨rfl, rfl⟩
    cases answer with
    | error e => exact .pure ⟨rfl, [.candidates false], rfl, .listed false .nil⟩
    | ok pids =>
      refine (Act.Mirrors.emit _ t').bind ?_
      rintro _ _ _ t'' - ⟨-, rfl⟩
      refine (firstShowing_mirrors i markerKey token pids t'').bind ?_
      rintro found _ _ _ - ⟨rfl, visits, rfl, hvisits⟩
      cases found with
      | none =>
        refine .pure ⟨rfl, .candidates true :: visits, ?_, .listed true hvisits⟩
        simp [Except.toBool]
      | some pid =>
        refine .pure ⟨rfl, .candidates true :: visits, ?_, .listed true hvisits⟩
        simp [Except.toBool]
  · rintro found _ notes t' - ⟨rfl, hcalls⟩
    cases found with
    | ok r => exact .pure ⟨rfl, by simpa using hcalls⟩
    | error e => exact .pure ⟨rfl, by simpa using hcalls⟩

theorem runtimeName_mirrors (i : Introspector σ τ) (source : Act σ (Option String)) (s : Scene σ) :
    (Probe.runtimeName (source.watching .named) i.watched).run.Mirrors
      (Probe.runtimeName source i).run s fun x y notes _ =>
        x = y ∧ ∃ name rest, notes = .named name :: rest ∧
          CallsOf (Strategy.NameBlock name · y) rest := by
  refine (Act.Mirrors.watching _ source s).bind ?_
  rintro name _ _ t - ⟨rfl, rfl⟩
  -- without an id to look at, the probe ends before it publishes anything
  cases name with
  | none => exact .pure ⟨rfl, none, [], rfl, [], rfl, .unnamed⟩
  | some name =>
  cases hname : Probe.nameId name with
  | error e =>
    simp only [hname]
    obtain ⟨reason, rfl, hnone⟩ := malformed_of_nameId hname
    exact .pure ⟨rfl, some name, [], rfl, [], rfl, .unread reason hnone⟩
  | ok pid =>
    have htold := nameId_eq_ok_iff.1 hname
    simp only [hname]
    refine (Act.Mirrors.freshToken t).bind ?_
    rintro token _ _ t' - ⟨rfl, rfl⟩
    refine (publishing_mirrors i markerKey token t' ?_).bind ?_
    · intro t
      refine (readProperty_mirrors i pid markerKey t).mono ?_
      rintro _ _ _ _ ⟨rfl, visits, rfl, hvisits⟩
      exact ⟨rfl, visits, rfl, .visits hvisits⟩
    · rintro found _ _ t'' - ⟨rfl, calls, rfl, hcalls⟩
      cases found with
      | error e => exact .pure ⟨rfl, some name, _, by simp, calls, rfl, .told htold hcalls⟩
      | ok value =>
        by_cases hvalue : value == some token
        · simp only [hvalue, if_true]
          exact .pure ⟨rfl, some name, _, by simp, calls, rfl, .told htold hcalls⟩
        · simp only [hvalue]
          exact .pure ⟨rfl, some name, _, by simp, calls, rfl, .told htold hcalls⟩

/-- A probe that was run: the names that it was given, its calls on the introspector, and how it
ended. -/
structure ProbeRun where
  names : List (Option String)
  calls : List IntrospectCall
  outcome : Except ProbeError ProcessId

/-- What is noted of a probe that was run. -/
def ProbeRun.notes (r : ProbeRun) : List ProbeNote :=
  r.names.map .named ++ r.calls.map .call ++ [.ended r.outcome]

theorem block_mirrors (i : Introspector σ τ) (k : Strategy σ) (s : Scene σ) :
    (k.lifted.probe i.watched).run.Mirrors (k.probe i).run s fun x y notes _ =>
      x = y ∧ ∃ names calls, notes = names.map .named ++ calls.map .call ∧
        k.Block names calls y := by
  cases k with
  | procStat path =>
    refine (Act.Mirrors.look _ s).bind ?_
    rintro answer _ _ t - ⟨rfl, rfl⟩
    cases answer with
    | error e => exact .pure ⟨rfl, [], [], rfl, rfl, rfl⟩
    | ok front => exact .pure ⟨rfl, [], [], rfl, rfl, rfl⟩
  | marker =>
    refine (marker_mirrors i s).mono ?_
    rintro _ _ _ _ ⟨rfl, calls, rfl, hcalls⟩
    exact ⟨rfl, [], calls, rfl, rfl, hcalls⟩
  | runtimeName source =>
    refine (runtimeName_mirrors i source s).mono ?_
    rintro _ _ _ _ ⟨rfl, name, _, rfl, calls, rfl, hcalls⟩
    exact ⟨rfl, [name], calls, rfl, name, rfl, hcalls⟩
  | other p =>
    refine (Act.Mirrors.on_part p.run s).mono ?_
    rintro _ _ _ _ ⟨rfl, rfl⟩
    exact ⟨rfl, [], [], rfl, rfl, rfl⟩

/-- Each probe that is run makes a block of calls, and its end is noted behind them. -/
theorem watchedProbe_mirrors (i : Introspector σ τ) (k : Strategy σ) (s : Scene σ) :
    (k.watchedProbe i).run.Mirrors (k.probe i).run s fun x y notes _ =>
      x = y ∧ ∃ names calls, notes = ProbeRun.notes ⟨names, calls, y⟩ ∧ k.Block names calls y := by
  -- the plain probe is followed by nothing where the watched one notes its end
  rw [← bind_pure (k.probe i).run]
  refine (block_mirrors i k s).bind ?_
  rintro outcome _ _ t - ⟨rfl, names, calls, rfl, hcalls⟩
  exact .note _ ⟨rfl, names, calls, rfl, hcalls⟩

/-! ## The chain -/

/-- The probes that are run, and the id that is found: none is run after one that succeeded. -/
inductive Resolution : List (Strategy σ) → List ProbeRun → Option ProcessId → Prop where
  | exhausted : Resolution [] [] none
  | found {k : Strategy σ} {ks : List (Strategy σ)} {names : List (Option String)}
      {calls : List IntrospectCall} {pid : ProcessId} (h : k.Block names calls (.ok pid)) :
      Resolution (k :: ks) [⟨names, calls, .ok pid⟩] (some pid)
  | failed {k : Strategy σ} {ks : List (Strategy σ)} {names : List (Option String)}
      {calls : List IntrospectCall} {e : ProbeError} {runs : List ProbeRun}
      {result : Option ProcessId} (h : k.Block names calls (.error e))
      (hrest : Resolution ks runs result) :
      Resolution (k :: ks) (⟨names, calls, .error e⟩ :: runs) result

theorem resolve_mirrors (i : Introspector σ τ) (ks : List (Strategy σ)) :
    ∀ s, (resolve (ks.map (Strategy.watchedProbe i))).Mirrors
      (resolve (ks.map (Strategy.probe i))) s fun x y notes _ =>
        x = y ∧ ∃ runs, notes = runs.flatMap ProbeRun.notes ∧ Resolution ks runs y := by
  induction ks with
  | nil =>
    intro s
    exact .pure ⟨rfl, [], rfl, .exhausted⟩
  | cons k ks ih =>
    intro s
    refine (watchedProbe_mirrors i k s).bind ?_
    rintro outcome _ _ t - ⟨rfl, names, calls, rfl, hcalls⟩
    cases outcome with
    | ok pid =>
      refine (Act.Mirrors.emit _ t).bind ?_
      rintro _ _ _ t' - ⟨-, rfl⟩
      exact .pure ⟨rfl, [⟨names, calls, .ok pid⟩], by simp, .found hcalls⟩
    | error e =>
      refine (Act.Mirrors.emit _ t).bind ?_
      rintro _ _ _ t' - ⟨-, rfl⟩
      refine (ih t').mono ?_
      rintro _ _ _ _ ⟨rfl, runs, rfl, hruns⟩
      exact ⟨rfl, ⟨names, calls, .error e⟩ :: runs, by simp, .failed hcalls hruns⟩

namespace Resolution

variable {ks : List (Strategy σ)} {runs : List ProbeRun} {result : Option ProcessId}

theorem length_le (h : Resolution ks runs result) : runs.length ≤ ks.length := by
  induction h with
  | exhausted => exact Nat.le_refl _
  | found h => simp
  | failed h _ ih => simpa using ih

theorem blocks (h : Resolution ks runs result) :
    ∀ p ∈ ks.zip runs, p.1.Block p.2.names p.2.calls p.2.outcome := by
  induction h with
  | exhausted => simp
  | found h => simpa using h
  | failed h _ ih =>
    intro p hp
    rcases List.mem_cons.1 hp with rfl | hp
    · exact h
    · exact ih p hp

theorem result_eq (h : Resolution ks runs result) :
    result = runs.findSome? (·.outcome.toOption) := by
  induction h with
  | exhausted => rfl
  | found h => rfl
  | failed h _ ih => exact ih

theorem stops (h : Resolution ks runs result) :
    ∀ r ∈ runs.dropLast, r.outcome.toOption = none := by
  induction h with
  | exhausted => simp
  | found h => simp
  | @failed k ks names calls e runs result h hrest ih =>
    intro r hr
    cases runs with
    | nil => simp at hr
    | cons next runs =>
      rw [List.dropLast_cons_of_ne_nil (List.cons_ne_nil _ _)] at hr
      rcases List.mem_cons.1 hr with rfl | hr
      · rfl
      · exact ih r hr

theorem exhausts (h : Resolution ks runs result) (hnone : result = none) :
    runs.length = ks.length := by
  induction h with
  | exhausted => rfl
  | found h => cases hnone
  | failed h _ ih => simp [ih hnone]

end Resolution

/-! ## Nothing is left open -/

/-- What is open between two calls. -/
inductive Held where
  | nothing
  | published (key : String)
  | attached (key : String) (pid : ProcessId)
deriving DecidableEq, Repr

/-- What is open after a call; `none` for a call that is out of place. -/
def Held.after : Held → IntrospectCall → Option Held
  | .nothing, .publish key _ ok => some (if ok then .published key else .nothing)
  | .published key, .candidates _ => some (.published key)
  | .published key, .attach pid ok => some (if ok then .attached key pid else .published key)
  | .attached key pid, .get p _ _ => if p = pid then some (.attached key pid) else none
  | .attached key pid, .detach p _ => if p = pid then some (.published key) else none
  | .published key, .retract k => if k = key then some .nothing else none
  | _, _ => none

theorem Visits.closed {calls : List IntrospectCall} (h : Visits calls) (key : String) :
    calls.foldlM Held.after (.published key) = some (.published key) := by
  induction h with
  | nil => rfl
  | refused pid _ ih => exact ih
  | visited pid name read detached _ ih =>
    simp only [List.foldlM_cons, Held.after, if_true, Option.bind_eq_bind, Option.bind_some]
    exact ih

theorem Scan.closed {calls : List IntrospectCall} (h : Scan calls) (key : String) :
    calls.foldlM Held.after (.published key) = some (.published key) := by
  cases h with
  | visits h => exact h.closed key
  | listed ok h => exact h.closed key

theorem Bracketed.closed {calls : List IntrospectCall} (h : Bracketed calls) :
    calls.foldlM Held.after .nothing = some .nothing := by
  cases h with
  | refused key value => rfl
  | held key value h =>
    simp only [List.foldlM_cons, List.foldlM_append, Held.after, if_true, Option.bind_eq_bind,
      Option.bind_some, h.closed key]
    simp

theorem Strategy.Block.closed {k : Strategy σ} {names : List (Option String)}
    {calls : List IntrospectCall} {outcome : Except ProbeError ProcessId}
    (h : k.Block names calls outcome) :
    calls.foldlM Held.after .nothing = some .nothing := by
  cases k with
  | procStat path =>
    obtain ⟨-, rfl⟩ := h
    rfl
  | marker => exact h.2.closed
  | runtimeName source =>
    obtain ⟨name, -, hcalls⟩ := h
    cases hcalls with
    | unnamed => rfl
    | unread => rfl
    | told _ hcalls => exact hcalls.closed
  | other p =>
    obtain ⟨-, rfl⟩ := h
    rfl

theorem Resolution.closed {ks : List (Strategy σ)} {runs : List ProbeRun}
    {result : Option ProcessId} (h : Resolution ks runs result) :
    (runs.flatMap ProbeRun.calls).foldlM Held.after .nothing = some .nothing := by
  induction h with
  | exhausted => rfl
  | found h =>
    rw [List.flatMap_singleton]
    exact h.closed
  | failed h _ ih =>
    rw [List.flatMap_cons, List.foldlM_append, h.closed]
    exact ih

/-- A resolution answers the id that the first successful probe finds and runs no probe behind that
one. The calls on the introspector are one block for each probe that is run, whatever the
introspector answers, so that every attachment is given back before the next and every publication
by the end of its block. -/
theorem resolve_brackets (i : Introspector σ τ) (ks : List (Strategy σ)) (s : Scene σ) :
    let plain := (resolve (ks.map (Strategy.probe i))).runOn s
    let watched := (resolve (ks.map (Strategy.watchedProbe i))).runOn (s.watched [])
    watched.1 = plain.1 ∧
      ∃ runs, watched.2 = plain.2.watched (runs.flatMap ProbeRun.notes) ∧
        runs.length ≤ ks.length ∧ (∀ p ∈ ks.zip runs, p.1.Block p.2.names p.2.calls p.2.outcome) ∧
        plain.1 = runs.findSome? (·.outcome.toOption) ∧
        (∀ r ∈ runs.dropLast, r.outcome.toOption = none) ∧
        (plain.1 = none → runs.length = ks.length) ∧
        (runs.flatMap ProbeRun.calls).foldlM Held.after .nothing = some .nothing := by
  intro plain watched
  obtain ⟨notes, hscene, hresult, runs, rfl, hruns⟩ := resolve_mirrors i ks s []
  exact ⟨hresult, runs, hscene, hruns.length_le, hruns.blocks, hruns.result_eq, hruns.stops,
    hruns.exhausts, hruns.closed⟩

/-- A runtime without a name: its probe makes no call, which is not even a publication that
failed. -/
theorem unnamed_runtime_not_bracketed :
    ((resolve [(Strategy.runtimeName (return none)).watchedProbe
        ProcessTable.introspector]).runOn (Scene.watched { state := {} } [])).2.state.record =
      ProbeRun.notes ⟨[none], [], .error (.unavailable "runtime name")⟩ ∧ ¬Bracketed [] := by
  refine ⟨rfl, ?_⟩
  intro h
  cases h

end SelfTrace
