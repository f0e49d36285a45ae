import SelfTrace.Introspection.ProcessTable
import SelfTrace.Proofs.Answers
import SelfTrace.Resolver.Probe

/-!
# The search for the own process

The marker probe publishes a fresh token, asks for processes and looks at them in turn until one
shows the token. What it answers is told by the answers of the introspector alone.

* `Searched` — processes looked at in order, up to the first that shows a value;
* `MarkerRun` — the courses that the probe can take;
* `marker_finds_first_showing` — what the probe answers, for every introspector.
-/

namespace SelfTrace

variable {σ τ : Type}

/-! ## Looking at one process after the other -/

/-- The processes are looked at in order, and none behind the first that shows the value. -/
inductive Searched (value : String) : List ProcessId → List Look → Option ProcessId → Prop where
  | exhausted : Searched value [] [] none
  | found (l : Look) (pids : List ProcessId) (h : l.Shows value) :
      Searched value (l.pid :: pids) [l] (some l.pid)
  | passed (l : Look) {pids : List ProcessId} {looks : List Look} {result : Option ProcessId}
      (h : ¬l.Shows value) (hrest : Searched value pids looks result) :
      Searched value (l.pid :: pids) (l :: looks) result

theorem firstShowing_searched (i : Introspector σ τ) (key value : String)
    (pids : List ProcessId) :
    ∀ s : Scene σ, (Probe.firstShowing i.answering key value pids).Mirrors
      (Probe.firstShowing i key value pids) s fun x y notes _ => x = y ∧
        ∃ looks, notes = looks.flatMap (Look.calls key) ∧ Searched value pids looks y := by
  induction pids with
  | nil =>
    intro s
    exact .pure ⟨rfl, [], rfl, .exhausted⟩
  | cons pid pids ih =>
    intro s
    refine (readProperty_answered i pid key s).bind ?_
    rintro shown _ _ t - ⟨rfl, l, rfl, rfl, rfl⟩
    by_cases hshown : l.value = some value
    · -- the search stops here, and the processes behind are not looked at
      have hshows := (l.value_eq_some_iff value).1 hshown
      simp only [hshown, beq_self_eq_true, if_true]
      exact .pure ⟨rfl, [l], by simp, .found l pids hshows⟩
    · have hshows : ¬l.Shows value := fun h => hshown ((l.value_eq_some_iff value).2 h)
      simp only [beq_eq_false_iff_ne.2 hshown, Bool.false_eq_true, if_false]
      refine (ih t).mono ?_
      rintro _ _ _ _ ⟨rfl, looks, rfl, hrest⟩
      exact ⟨rfl, l :: looks, rfl, .passed l hshows hrest⟩

namespace Searched

variable {value : String} {pids : List ProcessId} {looks : List Look} {result : Option ProcessId}

/-- The process that was found is the last that was looked at and the only one that shows the
value; those looked at before it stand in front of it. -/
theorem split (h : Searched value pids looks result) {p : ProcessId} (hp : result = some p) :
    ∃ before last after, looks = before ++ [last] ∧ last.pid = p ∧ last.Shows value ∧
      (∀ l ∈ before, ¬l.Shows value) ∧ pids = before.map Look.pid ++ p :: after := by
  induction h with
  | exhausted => cases hp
  | found l pids h =>
    cases hp
    exact ⟨[], l, pids, rfl, rfl, h, by simp, rfl⟩
  | passed l h _ ih =>
    obtain ⟨before, last, after, rfl, hlast, hshows, hbefore, rfl⟩ := ih hp
    exact ⟨l :: before, last, after, rfl, hlast, hshows, List.forall_mem_cons.2 ⟨h, hbefore⟩, rfl⟩

/-- Nothing is found exactly if all processes were looked at and none shows the value. -/
theorem result_eq_none_iff (h : Searched value pids looks result) :
    result = none ↔ looks.map Look.pid = pids ∧ ∀ l ∈ looks, ¬l.Shows value := by
  constructor
  · intro hnone
    induction h with
    | exhausted => simp
    | found l pids h => cases hnone
    | passed l h _ ih =>
      obtain ⟨hpids, hlooks⟩ := ih hnone
      exact ⟨by rw [List.map_cons, hpids], List.forall_mem_cons.2 ⟨h, hlooks⟩⟩
  · rintro ⟨-, hlooks⟩
    cases hresult : result with
    | none => rfl
    | some p =>
      obtain ⟨before, last, after, rfl, -, hshows, -⟩ := h.split hresult
      exact absurd hshows (hlooks last (by simp))

end Searched

/-! ## The marker probe -/

/-- A course of the marker probe: no token was published, no processes were listed, or the listed
ones were looked at. -/
inductive MarkerRun where
  | unpublished (e : IntrospectError)
  | unlisted (e : IntrospectError)
  | searched (pids : List ProcessId) (looks : List Look)

/-- The calls of a course in which a token was to be published. -/
def MarkerRun.calls (token : String) : MarkerRun → List Answered
  | .unpublished e => [.publish markerKey token (.error e)]
  | .unlisted e =>
    [.publish markerKey token (.ok ()), .candidates (.error e), .retract markerKey]
  | .searched pids looks =>
    .publish markerKey token (.ok ()) :: .candidates (.ok pids) ::
      (looks.flatMap (Look.calls markerKey) ++ [.retract markerKey])

/-- What the probe answers after a course. -/
inductive MarkerRun.Answers (token : String) : MarkerRun → Except ProbeError ProcessId → Prop where
  | unpublished (e : IntrospectError) : Answers token (.unpublished e) (.error (.introspect e))
  | unlisted (e : IntrospectError) : Answers token (.unlisted e) (.error (.introspect e))
  | found {pids : List ProcessId} {looks : List Look} {pid : ProcessId}
      (h : Searched token pids looks (some pid)) : Answers token (.searched pids looks) (.ok pid)
  | notFound {pids : List ProcessId} {looks : List Look} (h : Searched token pids looks none) :
      Answers token (.searched pids looks) (.error .notFound)

theorem marker_answers (i : Introspector σ τ) (s : Scene σ) :
    (Probe.marker i.answering).run.Mirrors (Probe.marker i).run s fun x y notes _ =>
      x = y ∧ ∃ run : MarkerRun, notes = run.calls (Act.freshToken.runOn s).1 ∧
        run.Answers (Act.freshToken.runOn s).1 y := by
  refine (Act.Mirrors.freshToken s).bind ?_
  rintro token _ _ t htoken ⟨rfl, rfl⟩
  rw [htoken]
  -- while the token is published, the processes are listed and looked at
  let Inside (answer : Except ProbeError ProcessId) (calls : List Answered) : Prop :=
    (∃ e, answer = .error (.introspect e) ∧ calls = [.candidates (.error e)]) ∨
    ∃ pids looks found, Searched token pids looks found ∧
      calls = .candidates (.ok pids) :: looks.flatMap (Look.calls markerKey) ∧
      answer = found.elim (.error .notFound) .ok
  refine (publishing_answered i markerKey token (P := Inside) t ?_).bind ?_
  · intro t
    refine (Act.Mirrors.watching _ i.candidates t).bind ?_
    rintro answer _ _ t' - ⟨rfl, rfl⟩
    cases answer with
    | error e => exact .pure ⟨rfl, .inl ⟨e, rfl, rfl⟩⟩
    | ok pids =>
      refine (Act.Mirrors.emit _ t').bind ?_
      rintro _ _ _ t'' - ⟨-, rfl⟩
      refine (firstShowing_searched i markerKey token pids t'').bind ?_
      rintro found _ _ _ - ⟨rfl, looks, rfl, hsearched⟩
      cases found with
      | none => exact .pure ⟨rfl, .inr ⟨pids, looks, none, hsearched, by simp, rfl⟩⟩
      | some pid => exact .pure ⟨rfl, .inr ⟨pids, looks, some pid, hsearched, by simp, rfl⟩⟩
  · rintro found _ _ t' - ⟨rfl, hpublished⟩
    cases hpublished with
    | refused e => exact .pure ⟨rfl, .unpublished e, by simp [MarkerRun.calls], .unpublished e⟩
    | held answer hinside =>
      rcases hinside with ⟨e, rfl, rfl⟩ | ⟨pids, looks, found, hsearched, rfl, rfl⟩
      · exact .pure ⟨rfl, .unlisted e, by simp [MarkerRun.calls], .unlisted e⟩
      · cases found with
        | none =>
          exact .pure ⟨rfl, .searched pids looks, by simp [MarkerRun.calls], .notFound hsearched⟩
        | some pid =>
          exact .pure ⟨rfl, .searched pids looks, by simp [MarkerRun.calls], .found hsearched⟩

/-! ## What follows for the answer -/

/-- The answer of the probe, told by its course. -/
structure MarkerRun.Decides (token : String) (run : MarkerRun)
    (answer : Except ProbeError ProcessId) : Prop where
  /-- A process is found exactly if it was the first of the listed ones to show the token; those
  behind it were not attached. -/
  found : ∀ p, answer = .ok p ↔ ∃ before last after,
    run = .searched (before.map Look.pid ++ p :: after) (before ++ [last]) ∧
      last.pid = p ∧ last.Shows token ∧ ∀ l ∈ before, ¬l.Shows token
  /-- None is found exactly if all listed processes were looked at and none shows the token. -/
  notFound : answer = .error .notFound ↔
    ∃ looks, run = .searched (looks.map Look.pid) looks ∧ ∀ l ∈ looks, ¬l.Shows token
  /-- The introspector's error is answered exactly if it published or listed nothing. -/
  failed : ∀ e, answer = .error (.introspect e) ↔ run = .unpublished e ∨ run = .unlisted e
  searched : ∀ pids looks, run = .searched pids looks →
    (∃ p, answer = .ok p) ∨ answer = .error .notFound
  /-- Where the own process alone shows the token, no other is answered. -/
  sound : ∀ own pids looks, run = .searched pids looks →
    (∀ l ∈ looks, l.Shows token → l.pid = own) → ∀ p, answer = .ok p → p = own
  /-- If moreover the own process is listed and shows the token when it is looked at, it is
  answered, whatever the looks at the others came to. -/
  complete : ∀ own pids looks, run = .searched pids looks →
    (∀ l ∈ looks, l.Shows token → l.pid = own) → own ∈ pids →
    (∀ l ∈ looks, l.pid = own → l.Shows token) → answer = .ok own

theorem MarkerRun.Answers.decides {token : String} {run : MarkerRun}
    {answer : Except ProbeError ProcessId} (h : run.Answers token answer) :
    run.Decides token answer := by
  cases h with
  | unpublished e => constructor <;> simp [eq_comm]
  | unlisted e => constructor <;> simp [eq_comm]
  | @found pids looks pid h =>
    -- a search that found something ends with the one look that shows the token
    obtain ⟨before, last, after, rfl, rfl, hshows, hbefore, rfl⟩ := h.split rfl
    constructor
    · intro p
      constructor
      · rintro ⟨rfl⟩
        exact ⟨before, last, after, rfl, rfl, hshows, hbefore⟩
      · rintro ⟨before', last', after', hrun, rfl, -, -⟩
        obtain ⟨-, hlooks⟩ := MarkerRun.searched.inj hrun
        rw [(List.append_inj' hlooks rfl).2 |> List.cons.inj |>.1]
    · constructor
      · intro hnone
        cases hnone
      · rintro ⟨looks, hrun, hlooks⟩
        obtain ⟨-, rfl⟩ := MarkerRun.searched.inj hrun
        exact absurd hshows (hlooks last (by simp))
    · intro e
      simp
    · intro pids looks _
      exact .inl ⟨_, rfl⟩
    · rintro own pids looks hrun hown p ⟨rfl⟩
      obtain ⟨-, rfl⟩ := MarkerRun.searched.inj hrun
      exact hown last (by simp) hshows
    · rintro own pids looks hrun hown - -
      obtain ⟨-, rfl⟩ := MarkerRun.searched.inj hrun
      rw [hown last (by simp) hshows]
  | @notFound pids looks h =>
    obtain ⟨rfl, hlooks⟩ := h.result_eq_none_iff.1 rfl
    constructor
    · intro p
      constructor
      · intro hok
        cases hok
      · rintro ⟨before, last, after, hrun, -, hshows, -⟩
        obtain ⟨-, rfl⟩ := MarkerRun.searched.inj hrun
        exact absurd hshows (hlooks last (by simp))
    · exact ⟨fun _ => ⟨looks, rfl, hlooks⟩, fun _ => rfl⟩
    · intro e
      simp
    · intro pids looks _
      exact .inr rfl
    · intro own pids looks _ _ p hok
      cases hok
    · rintro own pids looks' hrun - hmem hshows
      obtain ⟨rfl, rfl⟩ := MarkerRun.searched.inj hrun
      obtain ⟨l, hl, hpid⟩ := List.mem_map.1 hmem
      exact absurd (hshows l hl hpid) (hlooks l hl)

/-- The probe answers the first listed process that can be attached and shows exactly the token
published for this search, whatever the introspector answers to its calls. -/
theorem marker_finds_first_showing (i : Introspector σ τ) (s : Scene σ) :
    let token := (Act.freshToken.runOn s).1
    let plain := (Probe.marker i).run.runOn s
    let answered := (Probe.marker i.answering).run.runOn (s.watched [])
    answered.1 = plain.1 ∧ ∃ run : MarkerRun,
      answered.2 = plain.2.watched (run.calls token) ∧ run.Decides token plain.1 := by
  intro token plain answered
  obtain ⟨notes, hscene, hresult, run, rfl, hanswers⟩ := marker_answers i s []
  exact ⟨hresult, run, hscene, hanswers.decides⟩

/-- Processes that are denied, gone, unreadable or show nothing do not stop the search. -/
example :
    let t : ProcessTable := {
      own := some ⟨9⟩
      listed := [⟨1⟩, ⟨2⟩, ⟨3⟩, ⟨4⟩, ⟨9⟩, ⟨5⟩]
      denied := [⟨1⟩]
      unreadable := [⟨3⟩]
      processes := [(⟨4⟩, []), (⟨5⟩, [])] }
    ((Probe.marker ProcessTable.introspector).run.runOn { state := t }).1.toOption =
      some ⟨9⟩ := by
  intro t
  decide +kernel

end SelfTrace
