import SelfTrace.Files.Access
import SelfTrace.Log.Event
import SelfTrace.Monitors

/-!
# What the library acts on

A `Scene σ` is everything that an action can see or change: the files, the log written so far, the
source of fresh tokens, the monitored values of all agents by number, and a state `σ` of the
collaborators at hand. An `Act σ α` is an action with a result; the main statements about actions
are equations on the scene after a run.

A collaborator that knows a state of its own acts on a `Part` of a larger one.
-/

namespace SelfTrace

/-- Where fresh tokens come from: how many were issued, and what the clock will read, in
nanoseconds since its epoch. A clock without further readings reads zero. -/
structure TokenSource where
  issued : UInt64 := 0
  readings : List Nat := []
deriving Repr

/-- What an action sees and changes. -/
structure Scene (σ : Type) where
  state : σ
  files : Files.Tree := {}
  log : List Log.Event := []
  tokens : TokenSource := {}
  /-- The monitored values of all agents, by number. -/
  monitors : List Monitors := []

/-- An action with a result. -/
abbrev Act (σ α : Type) := StateM (Scene σ) α

/-- A part of a state: how to see it, and how to put another in its place. -/
structure Part (ρ σ : Type) where
  view : ρ → σ
  put : ρ → σ → ρ

namespace Act

variable {α ρ σ : Type}

/-! ## Log -/

/-- Writes an event to the log. -/
def emit (e : Log.Event) : Act σ Unit := modify fun s => { s with log := s.log ++ [e] }

/-! ## Files -/

/-- Looks at the files. -/
def look (f : Files.Tree → α) : Act σ α := do return f (← get).files

/-- Changes the files, if the change succeeds. -/
def change (f : Files.Tree → Except Failure Files.Tree) : Act σ (Except Failure Unit) := do
  match f (← get).files with
  | .ok files => modify fun s => { s with files := files }; return .ok ()
  | .error e => return .error e

/-- Changes the files, perhaps also if not all of the change succeeds. -/
def alter (f : Files.Tree → Files.Tree × Except Failure Unit) : Act σ (Except Failure Unit) := do
  let (files, answer) := f (← get).files
  modify fun s => { s with files := files }
  return answer

/-! ## Collaborators -/

/-- The state of the collaborators. -/
def state : Act σ σ := do return (← get).state

/-- Changes the state of the collaborators. -/
def update (f : σ → σ) : Act σ Unit := modify fun s => { s with state := f s.state }

/-! ## Monitored values -/

/-- Fresh monitored values; answers their number. -/
def newMonitors : Act σ Nat := do
  let number := (← get).monitors.length
  modify fun s => { s with monitors := s.monitors ++ [{}] }
  return number

/-- Changes the monitored values with a number. -/
def report (number : Nat) (f : Monitors → Monitors) : Act σ Unit :=
  modify fun s => { s with monitors := s.monitors.modify number f }

/-- The monitored values by number. -/
def monitored : Act σ (Nat → Monitors) := do
  let all := (← get).monitors
  return fun number => all[number]?.getD {}

/-! ## Running -/

/-- The result of an action and the scene after it. -/
def runOn (a : Act σ α) (s : Scene σ) : α × Scene σ := StateT.run a s

/-- Runs an action on a part of the collaborators' state. -/
def on (p : Part ρ σ) (a : Act σ α) : Act ρ α := fun s =>
  let (x, t) := a.runOn ⟨p.view s.state, s.files, s.log, s.tokens, s.monitors⟩
  (x, ⟨p.put s.state t.state, t.files, t.log, t.tokens, t.monitors⟩)

/-! ## What a run comes to -/

variable {β : Type}

@[simp] theorem runOn_pure (x : α) (s : Scene σ) : (pure x : Act σ α).runOn s = (x, s) := rfl

@[simp] theorem runOn_bind (a : Act σ α) (f : α → Act σ β) (s : Scene σ) :
    (a >>= f).runOn s = (f (a.runOn s).1).runOn (a.runOn s).2 := rfl

@[simp] theorem runOn_map (f : α → β) (a : Act σ α) (s : Scene σ) :
    (f <$> a).runOn s = (f (a.runOn s).1, (a.runOn s).2) := rfl

@[simp] theorem runOn_emit (e : Log.Event) (s : Scene σ) :
    (emit e : Act σ Unit).runOn s = ((), { s with log := s.log ++ [e] }) := rfl

@[simp] theorem runOn_look (f : Files.Tree → α) (s : Scene σ) :
    (look f : Act σ α).runOn s = (f s.files, s) := rfl

@[simp] theorem runOn_get (s : Scene σ) : (get : Act σ (Scene σ)).runOn s = (s, s) := rfl

@[simp] theorem runOn_modify (f : Scene σ → Scene σ) (s : Scene σ) :
    (modify f : Act σ Unit).runOn s = ((), f s) := rfl

@[simp] theorem runOn_newMonitors (s : Scene σ) :
    newMonitors.runOn s = (s.monitors.length, { s with monitors := s.monitors ++ [{}] }) := rfl

@[simp] theorem runOn_report (number : Nat) (f : Monitors → Monitors) (s : Scene σ) :
    (report number f).runOn s = ((), { s with monitors := s.monitors.modify number f }) := rfl

@[simp] theorem runOn_monitored (s : Scene σ) :
    monitored.runOn s = (fun number => s.monitors[number]?.getD {}, s) := rfl

theorem runOn_change_ok {f : Files.Tree → Except Failure Files.Tree} {s : Scene σ}
    {files : Files.Tree} (h : f s.files = .ok files) :
    (change f : Act σ _).runOn s = (.ok (), { s with files := files }) := by
  simp [change, h]

theorem runOn_change_error {f : Files.Tree → Except Failure Files.Tree} {s : Scene σ}
    {e : Failure} (h : f s.files = .error e) :
    (change f : Act σ _).runOn s = (.error e, s) := by
  simp [change, h]

theorem runOn_alter {f : Files.Tree → Files.Tree × Except Failure Unit} {s : Scene σ}
    {files : Files.Tree} {answer : Except Failure Unit} (h : f s.files = (files, answer)) :
    (alter f : Act σ _).runOn s = (answer, { s with files := files }) := by
  simp [alter, h]

@[simp] theorem runOn_state (s : Scene σ) : (state : Act σ σ).runOn s = (s.state, s) := rfl

@[simp] theorem runOn_update (f : σ → σ) (s : Scene σ) :
    (update f).runOn s = ((), { s with state := f s.state }) := rfl

end Act

end SelfTrace
