import SelfTrace.Introspection.Introspector
import SelfTrace.Proofs.Watched

/-!
# What an introspector answers

Calls on an introspector noted with their answers. The answers are whatever the introspector gives
at the time of the call; what a probe makes of them is then a statement about the notes.

* `Look` — a process that was looked at: whether it was attached, and what was read of it;
* `readProperty_answered` — reading a property is one look, and yields what was read;
* `publishing_answered` — an action while a value is published, between its publication and its
  retraction.
-/

namespace SelfTrace

variable {σ τ : Type}

/-! ## Calls with their answers -/

/-- A call on an introspector, with its answer. -/
inductive Answered where
  | publish (key value : String) (answer : Except IntrospectError Unit)
  | retract (key : String)
  | candidates (answer : Except IntrospectError (List ProcessId))
  | attach (pid : ProcessId) (answer : Except IntrospectError Unit)
  | get (pid : ProcessId) (key : String) (answer : Except IntrospectError (Option String))
  | detach (pid : ProcessId) (answer : Except IntrospectError Unit)

/-- An introspector whose calls are noted with their answers; the tables it hands out know their
process. -/
def Introspector.answering (i : Introspector σ τ) :
    Introspector (Watched Answered σ) (ProcessId × τ) where
  publish key value := (i.publish key value).watching (.publish key value)
  retract key := (i.retract key).watching fun _ => .retract key
  candidates := i.candidates.watching .candidates
  attach pid := do
    let answer ← (i.attach pid).watching fun r => .attach pid (r.map fun _ => ())
    return answer.map fun table => (pid, table)
  get t key := (i.get t.2 key).watching (.get t.1 key)
  detach t := do
    let answer ← (i.detach t.2).watching fun r => .detach t.1 r.2
    return ((t.1, answer.1), answer.2)

/-! ## Looks at processes -/

/-- A look at a process: it could not be attached, or it was read and detached again. -/
inductive Look where
  | refused (pid : ProcessId) (e : IntrospectError)
  | taken (pid : ProcessId) (read : Except IntrospectError (Option String))
      (detached : Except IntrospectError Unit)

namespace Look

/-- The process that was looked at. -/
def pid : Look → ProcessId
  | .refused pid _ => pid
  | .taken pid _ _ => pid

/-- The process was attached and shows exactly this value. -/
def Shows (l : Look) (value : String) : Prop :=
  ∃ pid detached, l = .taken pid (.ok (some value)) detached

/-- What a look yields: every failure yields nothing. -/
def value : Look → Option String
  | .taken _ (.ok value) _ => value
  | _ => none

/-- The calls of a look at a key. -/
def calls (key : String) : Look → List Answered
  | .refused pid e => [.attach pid (.error e)]
  | .taken pid read detached =>
    [.attach pid (.ok ()), .get pid key read, .detach pid detached]

theorem value_eq_some_iff (l : Look) (v : String) : l.value = some v ↔ l.Shows v := by
  cases l with
  | refused pid e => simp [value, Shows]
  | taken pid read detached =>
    cases read with
    | error e => simp [value, Shows]
    | ok shown => simp [value, Shows]

end Look

theorem opened_answered (i : Introspector σ τ) (pid : ProcessId) (s : Scene σ) :
    (Attachment.opened i.answering pid).Mirrors (Attachment.opened i pid) s fun x y notes _ =>
      x = y.map (fun a => ⟨a.pid, (a.pid, a.table)⟩) ∧ (∀ a, y = .ok a → a.pid = pid) ∧
        notes = [.attach pid (y.map fun _ => ())] := by
  refine Act.Mirrors.bind (P := fun x y notes _ => x = y.map (fun table => (pid, table)) ∧
    notes = [.attach pid (y.map fun _ => ())]) ?_ ?_
  · intro record
    exact ⟨[.attach pid _], rfl, rfl, rfl⟩
  · rintro _ answer _ t - ⟨rfl, rfl⟩
    cases answer with
    | error e => exact .pure ⟨rfl, by simp, rfl⟩
    | ok table => exact .pure ⟨rfl, by rintro _ ⟨⟩; rfl, rfl⟩

theorem close_answered (i : Introspector σ τ) (pid : ProcessId) (table : τ) (s : Scene σ) :
    (Attachment.close i.answering ⟨pid, (pid, table)⟩).Mirrors (Attachment.close i ⟨pid, table⟩) s
      fun _ _ notes _ => ∃ detached, notes = [.detach pid detached] := by
  refine Act.Mirrors.bind (P := fun x y notes _ => x.2 = y.2 ∧ notes = [.detach pid y.2]) ?_ ?_
  · intro record
    exact ⟨[.detach pid _], rfl, rfl, rfl⟩
  · rintro ⟨table', outcome'⟩ ⟨table'', outcome⟩ _ t - ⟨houtcome, rfl⟩
    cases houtcome
    cases outcome' with
    | ok _ => exact .pure ⟨_, rfl⟩
    | error e =>
      refine (Act.Mirrors.emit _ t).mono ?_
      rintro _ _ _ _ ⟨-, rfl⟩
      exact ⟨_, rfl⟩

/-- Reading a property is one look at the process, and yields what that look yields. -/
theorem readProperty_answered (i : Introspector σ τ) (pid : ProcessId) (key : String)
    (s : Scene σ) :
    (readProperty i.answering pid key).Mirrors (readProperty i pid key) s fun x y notes _ =>
      x = y ∧ ∃ l : Look, notes = l.calls key ∧ l.pid = pid ∧ y = l.value := by
  refine (opened_answered i pid s).bind ?_
  rintro _ answer _ t - ⟨rfl, hpid, rfl⟩
  cases answer with
  | error e =>
    refine (Act.Mirrors.emit _ t).bind ?_
    rintro _ _ _ _ - ⟨-, rfl⟩
    exact .pure ⟨rfl, .refused pid e, rfl, rfl, rfl⟩
  | ok a =>
    obtain ⟨pid, table⟩ := a
    cases hpid _ rfl
    -- the process is detached in the same way whether the property was read or not
    have hclose : ∀ (read : Except IntrospectError (Option String)) (value : Option String)
        (t : Scene σ), (∀ detached, value = (Look.taken pid read detached).value) →
        (Attachment.close i.answering ⟨pid, (pid, table)⟩ >>= fun _ => pure value).Mirrors
          (Attachment.close i ⟨pid, table⟩ >>= fun _ => pure value) t fun x y notes _ => x = y ∧
            ∃ l : Look, .attach pid (.ok ()) :: .get pid key read :: notes = l.calls key ∧
              l.pid = pid ∧ y = l.value := by
      intro read value t hvalue
      refine (close_answered i pid table t).bind ?_
      rintro _ _ _ _ - ⟨detached, rfl⟩
      exact .pure ⟨rfl, .taken pid read detached, rfl, rfl, hvalue detached⟩
    refine (Act.Mirrors.watching _ (i.get table key) t).bind ?_
    rintro answer _ _ t' - ⟨rfl, rfl⟩
    cases answer with
    | ok value =>
      refine Act.Mirrors.bind (P := Act.Unnoted) (.pure ⟨rfl, rfl⟩) ?_
      rintro shown _ _ _ ⟨⟩ ⟨rfl, rfl⟩
      exact hclose (.ok shown) shown t' fun _ => rfl
    | error e =>
      refine (Act.Mirrors.emit _ t').bind ?_
      rintro _ _ _ t'' - ⟨-, rfl⟩
      exact hclose (.error e) none t'' fun _ => rfl

/-! ## Publications -/

/-- The calls around an action while a value is published, and the result of all: the publication
is refused, or the value is retracted behind the calls of the action. -/
inductive PublishedAround {α : Type} (key value : String) (P : α → List Answered → Prop) :
    Except IntrospectError α → List Answered → Prop where
  | refused (e : IntrospectError) :
      PublishedAround key value P (.error e) [.publish key value (.error e)]
  | held (r : α) {calls : List Answered} (h : P r calls) :
      PublishedAround key value P (.ok r) (.publish key value (.ok ()) :: (calls ++ [.retract key]))

/-- What is published for an action is retracted after it, whatever happens in it. -/
theorem publishing_answered {α : Type} (i : Introspector σ τ) (key value : String)
    {body : Act (Watched Answered σ) α} {plain : Act σ α} {P : α → List Answered → Prop}
    (s : Scene σ) (hbody : ∀ t, body.Mirrors plain t fun x y notes _ => x = y ∧ P y notes) :
    (publishing i.answering key value body).Mirrors (publishing i key value plain) s
      fun x y notes _ => x = y ∧ PublishedAround key value P y notes := by
  refine Act.Mirrors.bind (P := fun x y notes _ => x = y ∧
    notes = [.publish key value (y.map fun _ => ())] ∧ ∀ p, y = .ok p → p.key = key) ?_ ?_
  · refine (Act.Mirrors.watching _ (i.publish key value) s).bind ?_
    rintro answer _ _ t - ⟨rfl, rfl⟩
    cases answer with
    | ok _ => exact .pure ⟨rfl, rfl, by rintro _ ⟨⟩; rfl⟩
    | error e => exact .pure ⟨rfl, rfl, by simp⟩
  · rintro answer _ _ t - ⟨rfl, rfl, hkey⟩
    cases answer with
    | error e => exact .pure ⟨rfl, .refused e⟩
    | ok p =>
      -- the result of the action is only looked at after the retraction
      refine (hbody t).bind ?_
      rintro r _ calls t' - ⟨rfl, hcalls⟩
      refine (Act.Mirrors.watching _ (i.retract p.key) t').bind ?_
      rintro _ _ _ _ - ⟨-, rfl⟩
      have hheld : PublishedAround key value P (.ok r)
          (.publish key value (.ok ()) :: (calls ++ [.retract key])) := .held r hcalls
      refine .pure ⟨rfl, ?_⟩
      rw [hkey p rfl]
      simpa [Except.map] using hheld

end SelfTrace
