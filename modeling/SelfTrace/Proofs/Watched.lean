import SelfTrace.Introspection.Token

/-!
# Watched actions

A state with a record of what was done, and actions on it that note something in the record but
otherwise do what a plain action does on the state alone. A statement about the record is then a
statement about the order in which the plain action goes about its work.

* `Act.watching` — an action with a note of its result;
* `Act.Mirrors` — a watched action does what a plain one does, and its notes are of a given form;
* `Mirrors.bind` — the notes of two actions in sequence follow one another.
-/

namespace SelfTrace

/-- A state of collaborators with a record. -/
structure Watched (κ σ : Type) where
  state : σ
  record : List κ := []

namespace Watched

variable {κ σ : Type}

/-- The state without the record. -/
def part : Part (Watched κ σ) σ := ⟨Watched.state, fun w s => { w with state := s }⟩

/-- Adds a note to the record. -/
def note (k : κ) : Act (Watched κ σ) Unit :=
  Act.update fun w => { w with record := w.record ++ [k] }

end Watched

/-- A scene whose collaborators are watched. -/
def Scene.watched {κ σ : Type} (s : Scene σ) (record : List κ) : Scene (Watched κ σ) :=
  ⟨⟨s.state, record⟩, s.files, s.log, s.tokens, s.monitors⟩

namespace Act

variable {κ σ α β γ δ : Type}

/-- An action with a note of its result. -/
def watching (f : α → κ) (a : Act σ α) : Act (Watched κ σ) α := do
  let r ← a.on Watched.part
  Watched.note (f r)
  return r

/-! ## Mirrored actions -/

/-- From a scene on, the watched action changes the scene as the plain one does and adds some notes
to the record. The results of both, the notes and the scene that is left are related. -/
def Mirrors (a : Act (Watched κ σ) α) (b : Act σ β) (s : Scene σ)
    (P : α → β → List κ → Scene σ → Prop) : Prop :=
  ∀ record, ∃ notes,
    (a.runOn (s.watched record)).2 = (b.runOn s).2.watched (record ++ notes) ∧
    P (a.runOn (s.watched record)).1 (b.runOn s).1 notes (b.runOn s).2

/-- The results of a watched action and of the plain one are the same, and nothing was noted. -/
def Unnoted (x y : α) (notes : List κ) (_ : Scene σ) : Prop := x = y ∧ notes = []

namespace Mirrors

variable {a : Act (Watched κ σ) α} {b : Act σ β} {s : Scene σ}
  {P Q : α → β → List κ → Scene σ → Prop}

theorem mono (h : a.Mirrors b s P) (hPQ : ∀ x y notes t, P x y notes t → Q x y notes t) :
    a.Mirrors b s Q := by
  intro record
  obtain ⟨notes, hs, hP⟩ := h record
  exact ⟨notes, hs, hPQ _ _ _ _ hP⟩

theorem pure {x : α} {y : β} (h : P x y [] s) :
    (Pure.pure x : Act (Watched κ σ) α).Mirrors (Pure.pure y : Act σ β) s P := by
  intro record
  refine ⟨[], ?_, h⟩
  rw [List.append_nil]
  rfl

/-- The notes of two actions in sequence follow one another. -/
theorem bind {f : α → Act (Watched κ σ) γ} {g : β → Act σ δ}
    {R : γ → δ → List κ → Scene σ → Prop} (h : a.Mirrors b s P)
    (hnext : ∀ x y first t, b.runOn s = (y, t) → P x y first t →
      (f x).Mirrors (g y) t fun u v rest t' => R u v (first ++ rest) t') :
    (a >>= f).Mirrors (b >>= g) s R := by
  intro record
  obtain ⟨first, hs, hP⟩ := h record
  have hrun : b.runOn s = ((b.runOn s).1, (b.runOn s).2) := rfl
  obtain ⟨rest, hs', hR⟩ := hnext _ _ first _ hrun hP (record ++ first)
  refine ⟨first ++ rest, ?_, ?_⟩
  · rw [runOn_bind, runOn_bind, hs, hs', List.append_assoc]
  · rw [runOn_bind, runOn_bind, hs]
    exact hR

theorem watching (f : β → κ) (b : Act σ β) (s : Scene σ) :
    (b.watching f).Mirrors b s fun x y notes _ => x = y ∧ notes = [f y] := by
  intro record
  exact ⟨[f (b.runOn s).1], rfl, rfl, rfl⟩

theorem on_part (b : Act σ β) (s : Scene σ) :
    (b.on Watched.part : Act (Watched κ σ) β).Mirrors b s Unnoted := by
  intro record
  refine ⟨[], ?_, rfl, rfl⟩
  rw [List.append_nil]
  rfl

/-- A note is added and nothing else is done. -/
theorem note (k : κ) {x : α} {y : β} (h : P x y [k] s) :
    (Watched.note k >>= fun _ => Pure.pure x).Mirrors (Pure.pure y : Act σ β) s P := by
  intro record
  exact ⟨[k], rfl, h⟩

theorem emit (e : Log.Event) (s : Scene σ) :
    (Act.emit e : Act (Watched κ σ) Unit).Mirrors (Act.emit e) s Unnoted := by
  intro record
  refine ⟨[], ?_, rfl, rfl⟩
  rw [List.append_nil]
  rfl

theorem look (f : Files.Tree → β) (s : Scene σ) :
    (Act.look f : Act (Watched κ σ) β).Mirrors (Act.look f) s Unnoted := by
  intro record
  refine ⟨[], ?_, rfl, rfl⟩
  rw [List.append_nil]
  rfl

theorem change (f : Files.Tree → Except Failure Files.Tree) (s : Scene σ) :
    (Act.change f : Act (Watched κ σ) _).Mirrors (Act.change f) s Unnoted := by
  intro record
  refine ⟨[], ?_⟩
  rw [List.append_nil]
  cases h : f s.files with
  | ok files =>
    have hwatched : f (s.watched record).files = .ok files := h
    rw [runOn_change_ok h, runOn_change_ok hwatched]
    exact ⟨rfl, rfl, rfl⟩
  | error e =>
    have hwatched : f (s.watched record).files = .error e := h
    rw [runOn_change_error h, runOn_change_error hwatched]
    exact ⟨rfl, rfl, rfl⟩

theorem freshToken (s : Scene σ) :
    (Act.freshToken : Act (Watched κ σ) String).Mirrors Act.freshToken s Unnoted := by
  intro record
  refine ⟨[], ?_, rfl, rfl⟩
  rw [List.append_nil]
  rfl

theorem newMonitors (s : Scene σ) :
    (Act.newMonitors : Act (Watched κ σ) Nat).Mirrors Act.newMonitors s Unnoted := by
  intro record
  refine ⟨[], ?_, rfl, rfl⟩
  rw [List.append_nil]
  rfl

end Mirrors

end Act

end SelfTrace
