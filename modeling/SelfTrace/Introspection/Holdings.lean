import SelfTrace.Introspection.Introspector

/-!
# What a process holds

Publications and attachments that are held for longer than one action: a publication by its key,
an attachment by a name. What takes the place of another is there before the other is given back, so
that publishing a key again ends with the key retracted.
-/

namespace SelfTrace

/-- The publications and attachments held. -/
structure Holdings (τ : Type) where
  publications : List (String × Publication) := []
  attachments : List (String × Attachment τ) := []

namespace Holdings

variable {α σ τ : Type}

/-! ## Names -/

/-- What is held under a name. -/
def find (name : String) (xs : List (String × α)) : Option α :=
  (xs.find? (·.1 == name)).map (·.2)

/-- What is held under other names. -/
def without (name : String) (xs : List (String × α)) : List (String × α) :=
  xs.filter (·.1 != name)

/-- All that is held, by name. -/
def byName (xs : List (String × α)) : List (String × α) := xs.mergeSort fun a b => a.1 ≤ b.1

theorem find_cons_of_ne {name other : String} (h : other ≠ name) (a : α)
    (xs : List (String × α)) : find other ((name, a) :: xs) = find other xs := by
  have hne : (name == other) = false := beq_eq_false_iff_ne.2 (Ne.symm h)
  rw [find, List.find?_cons, hne, find]

theorem find_without_of_ne {name other : String} (h : other ≠ name) (xs : List (String × α)) :
    find other (without name xs) = find other xs := by
  rw [find, find, without, List.find?_filter]
  congr 2
  funext x
  by_cases hx : x.1 = other
  · simp [hx, h]
  · simp [hx]

/-! ## Publications -/

/-- Publishes a value and holds the publication; tells whether it takes the place of another. -/
def publish (i : Introspector σ τ) (h : Holdings τ) (key value : String) :
    Act σ (Holdings τ × Except IntrospectError Bool) := do
  match ← Publication.make i key value with
  | .error e => return (h, .error e)
  | .ok p =>
    let old := find key h.publications
    match old with
    | some old => old.release i
    | none => pure ()
    return ({ h with publications := (key, p) :: without key h.publications }, .ok old.isSome)

/-- Gives a publication back; tells whether there was one. -/
def unpublish (i : Introspector σ τ) (h : Holdings τ) (key : String) :
    Act σ (Holdings τ × Bool) := do
  match find key h.publications with
  | none => return (h, false)
  | some p =>
    p.release i
    return ({ h with publications := without key h.publications }, true)

/-! ## Attachments -/

/-- Attaches to a process and holds the attachment. -/
def attach (i : Introspector σ τ) (h : Holdings τ) (name : String) (pid : ProcessId) :
    Act σ (Holdings τ × Except IntrospectError Unit) := do
  match ← Attachment.opened i pid with
  | .error e => return (h, .error e)
  | .ok a =>
    match find name h.attachments with
    | some old => old.close i
    | none => pure ()
    return ({ h with attachments := (name, a) :: without name h.attachments }, .ok ())

/-- The value under a key of an attachment, if that is held. -/
def get (i : Introspector σ τ) (h : Holdings τ) (name key : String) :
    Act σ (Option (Except IntrospectError (Option String))) := do
  match find name h.attachments with
  | none => return none
  | some a => return some (← a.get i key)

/-- Gives an attachment back; tells whether there was one. -/
def close (i : Introspector σ τ) (h : Holdings τ) (name : String) : Act σ (Holdings τ × Bool) := do
  match find name h.attachments with
  | none => return (h, false)
  | some a =>
    a.close i
    return ({ h with attachments := without name h.attachments }, true)

/-! ## The end -/

/-- Gives everything back: the attachments by name, then the publications by key. -/
def releaseAll (i : Introspector σ τ) (h : Holdings τ) : Act σ Unit := do
  for (_, a) in byName h.attachments do a.close i
  for (_, p) in byName h.publications do p.release i

end Holdings

end SelfTrace
