import SelfTrace.Introspection.ProcessTable
import SelfTrace.Proofs.Answers
import SelfTrace.Proofs.NamedIds

/-!
# Confirming the id in a name

The probe by the runtime's name believes no name: it publishes a fresh token and looks whether the
process that the name tells shows it.

* `NameRun` — a course of the probe, with its calls on the introspector;
* `runtimeName_confirms` — what the probe answers after each course, whatever the introspector
  answers to it.
-/

namespace SelfTrace

variable {σ τ : Type}

/-! ## Courses -/

/-- A course of the probe: there is no name, there is no id in it, no token was published, or the
process was looked at. -/
inductive NameRun where
  | unnamed
  | unread
  | unpublished (e : IntrospectError)
  | looked (l : Look)

/-- The calls of a course; the token is the one that was to be published. -/
def NameRun.calls (token : String) : NameRun → List Answered
  | .unnamed => []
  | .unread => []
  | .unpublished e => [.publish markerKey token (.error e)]
  | .looked l => .publish markerKey token (.ok ()) :: (l.calls markerKey ++ [.retract markerKey])

/-- Which course a name can take, and what the probe answers after it. -/
inductive NameRun.Answers (token : String) :
    Option String → NameRun → Except ProbeError ProcessId → Prop where
  | unnamed : Answers token none .unnamed (.error (.unavailable "runtime name"))
  | unread {name : String} (reason : String) (h : ∀ p, ¬NamesId name p) :
      Answers token (some name) .unread (.error (.malformed reason))
  | unpublished {name : String} {p : ProcessId} (e : IntrospectError) (h : NamesId name p) :
      Answers token (some name) (.unpublished e) (.error (.introspect e))
  | shown {name : String} {l : Look} (h : NamesId name l.pid) (hshown : l.Shows token) :
      Answers token (some name) (.looked l) (.ok l.pid)
  | hidden {name : String} {l : Look} (h : NamesId name l.pid) (hhidden : ¬l.Shows token) :
      Answers token (some name) (.looked l) (.error (.mismatch l.pid))

theorem runtimeName_answers (i : Introspector σ τ) (source : Act σ (Option String)) (s : Scene σ) :
    let token := (Act.freshToken.runOn (source.runOn s).2).1
    (Probe.runtimeName (source.on Watched.part) i.answering).run.Mirrors
      (Probe.runtimeName source i).run s fun x y notes _ =>
        x = y ∧ ∃ run : NameRun, notes = run.calls token ∧
          run.Answers token (source.runOn s).1 y := by
  intro token
  refine (Act.Mirrors.on_part source s).bind ?_
  rintro name _ _ t hname ⟨rfl, rfl⟩
  have htoken : token = (Act.freshToken.runOn t).1 := by
    show (Act.freshToken.runOn (source.runOn s).2).1 = (Act.freshToken.runOn t).1
    rw [hname]
  rw [htoken, hname]
  cases name with
  | none => exact .pure ⟨rfl, .unnamed, rfl, .unnamed⟩
  | some name =>
  cases hid : Probe.nameId name with
  | error e =>
    -- nothing is published for a name that tells no id
    simp only [hid]
    rcases malformed_of_nameId hid with ⟨reason, rfl, hnone⟩
    exact .pure ⟨rfl, .unread, rfl, .unread reason hnone⟩
  | ok pid =>
    have hpid : NamesId name pid := nameId_eq_ok_iff.1 hid
    simp only [hid]
    refine (Act.Mirrors.freshToken t).bind ?_
    rintro token _ _ t' hfresh ⟨rfl, rfl⟩
    rw [hfresh]
    -- while the token is published, the process in the name is looked at, and no other
    refine (publishing_answered i markerKey token
      (P := fun y calls => ∃ l : Look, calls = l.calls markerKey ∧ l.pid = pid ∧ y = l.value) t'
      fun t => readProperty_answered i pid markerKey t).bind ?_
    rintro value _ _ t'' - ⟨rfl, hpublished⟩
    cases hpublished with
    | refused e => exact .pure ⟨rfl, .unpublished e, rfl, .unpublished e hpid⟩
    | held value hlook =>
      rcases hlook with ⟨l, rfl, rfl, rfl⟩
      by_cases hvalue : l.value = some token
      · simp only [hvalue, beq_self_eq_true, if_true]
        exact .pure ⟨rfl, .looked l, by simp [NameRun.calls],
          .shown hpid ((l.value_eq_some_iff token).1 hvalue)⟩
      · have hhidden : ¬l.Shows token := by
          rw [← l.value_eq_some_iff]
          exact hvalue
        simp only [beq_eq_false_iff_ne.2 hvalue]
        exact .pure ⟨rfl, .looked l, by simp [NameRun.calls], .hidden hpid hhidden⟩

/-! ## What follows for the answer -/

/-- The answer of the probe, told by the name and the course. -/
structure NameRun.Decides (token : String) (name : Option String) (run : NameRun)
    (answer : Except ProbeError ProcessId) : Prop where
  /-- An id is answered exactly if the name tells it, the token was published, and the process
  shows exactly this token when it is looked at. -/
  found : ∀ p, answer = .ok p ↔ ∃ text l, name = some text ∧ NamesId text p ∧ run = .looked l ∧
    l.pid = p ∧ l.Shows token
  unavailable : answer = .error (.unavailable "runtime name") ↔ name = none
  malformed : (∃ reason, answer = .error (.malformed reason)) ↔
    ∃ text, name = some text ∧ ∀ p, ¬NamesId text p
  /-- The introspector's error is answered exactly if it did not publish the token. -/
  failed : ∀ e, answer = .error (.introspect e) ↔ run = .unpublished e
  /-- The id is refused exactly if the process does not show the token, be it that it was not
  attached, not read, or shows something else. -/
  mismatch : ∀ p, answer = .error (.mismatch p) ↔ ∃ text l, name = some text ∧ NamesId text p ∧
    run = .looked l ∧ l.pid = p ∧ ¬l.Shows token
  /-- A token is to be published exactly if the name tells an id; otherwise no call is made. -/
  tried : (∃ text p, name = some text ∧ NamesId text p) ↔
    (∃ e, run = .unpublished e) ∨ ∃ l, run = .looked l
  quiet : (∀ text p, name = some text → ¬NamesId text p) → run.calls token = []
  /-- No process is attached but the one that the name tells. -/
  attached : ∀ p r, .attach p r ∈ run.calls token → ∃ text, name = some text ∧ NamesId text p

theorem Look.attach_mem_calls {l : Look} {key : String} {p : ProcessId}
    {r : Except IntrospectError Unit} (h : .attach p r ∈ l.calls key) : p = l.pid := by
  cases l with
  | refused pid e =>
    simp only [Look.calls, List.mem_singleton, Answered.attach.injEq] at h
    exact h.1
  | taken pid read detached =>
    simp only [Look.calls, List.mem_cons, Answered.attach.injEq, reduceCtorEq, List.not_mem_nil,
      or_false] at h
    exact h.1

theorem NameRun.attach_mem_calls {token : String} {run : NameRun} {p : ProcessId}
    {r : Except IntrospectError Unit} (h : .attach p r ∈ run.calls token) :
    ∃ l, run = .looked l ∧ p = l.pid := by
  cases run with
  | looked l =>
    simp only [NameRun.calls, List.mem_cons, List.mem_append, reduceCtorEq, List.not_mem_nil,
      false_or, or_false] at h
    exact ⟨l, rfl, Look.attach_mem_calls h⟩
  | unpublished e => simp [NameRun.calls] at h
  | unnamed => cases h
  | unread => cases h

/-- No process is attached but the one that the name tells. -/
theorem NameRun.Answers.attached {token : String} {name : Option String} {run : NameRun}
    {answer : Except ProbeError ProcessId} {p : ProcessId} {r : Except IntrospectError Unit}
    (h : run.Answers token name answer) (hcall : .attach p r ∈ run.calls token) :
    ∃ text, name = some text ∧ NamesId text p := by
  rcases NameRun.attach_mem_calls hcall with ⟨l, rfl, rfl⟩
  cases h with
  | @shown name _ h hshown => exact ⟨name, rfl, h⟩
  | @hidden name _ h hhidden => exact ⟨name, rfl, h⟩

theorem NameRun.Answers.decides {token : String} {name : Option String} {run : NameRun}
    {answer : Except ProbeError ProcessId} (h : run.Answers token name answer) :
    run.Decides token name answer := by
  have hattached := fun p r => h.attached (p := p) (r := r)
  -- where the name tells an id, the calls are not none, and only the course tells the answer
  cases h with
  | unnamed => constructor <;> simp [NameRun.calls]
  | unread reason h => constructor <;> simp [NameRun.calls, h]
  | @unpublished name p e h =>
    have hid : ∃ p, NamesId name p := ⟨p, h⟩
    constructor
    case quiet =>
      intro hnone
      exact absurd h (hnone name p rfl)
    case attached => exact hattached
    all_goals simp [hid]
  | @shown name l h hshown =>
    have hid : ∃ p, NamesId name p := ⟨l.pid, h⟩
    constructor
    case quiet =>
      intro hnone
      exact absurd h (hnone name l.pid rfl)
    case attached => exact hattached
    all_goals simp [hid, h, hshown]
  | @hidden name l h hhidden =>
    have hid : ∃ p, NamesId name p := ⟨l.pid, h⟩
    constructor
    case quiet =>
      intro hnone
      exact absurd h (hnone name l.pid rfl)
    case attached => exact hattached
    all_goals simp [hid, h, hhidden]

/-- The probe answers the id in the runtime's name exactly if the process of this id shows the token
that was published for this question, and each other outcome has its own error. No other process is
attached, and without an id in the name no call is made at all. -/
theorem runtimeName_confirms (i : Introspector σ τ) (source : Act σ (Option String))
    (s : Scene σ) :
    let name := (source.runOn s).1
    let token := (Act.freshToken.runOn (source.runOn s).2).1
    let plain := (Probe.runtimeName source i).run.runOn s
    let answered :=
      (Probe.runtimeName (source.on Watched.part) i.answering).run.runOn (s.watched [])
    answered.1 = plain.1 ∧
      (∃ run : NameRun, answered.2 = plain.2.watched (run.calls token) ∧
        run.Decides token name plain.1) ∧
      ∀ (p : ProcessId) (host : String), NamesId (p.text ++ "@" ++ host) p ↔ p.raw ≠ 0 := by
  intro name token plain answered
  rcases runtimeName_answers i source s [] with ⟨notes, hscene, hresult, run, rfl, hanswers⟩
  refine ⟨hresult, ⟨run, hscene, hanswers.decides⟩, ?_⟩
  intro p host
  rw [← nameId_eq_ok_iff]
  exact nameId_text_iff p host

/-- A name with the id of another process is not believed, whatever it says behind that id. -/
example :
    let t : ProcessTable := { own := some ⟨9⟩, processes := [(⟨4⟩, [])] }
    ((Probe.runtimeName (return some "4@9@host") ProcessTable.introspector).run.runOn
      { state := t }).1 = .error (.mismatch ⟨4⟩) := by
  intro t
  decide +kernel

end SelfTrace
