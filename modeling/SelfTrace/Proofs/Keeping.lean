import SelfTrace.Agent.Basic

/-!
# What actions leave alone

* `Act.Leads` — the result of an action and the scene after it are related;
* `Act.Keeps` — an action leaves a part of the scene as it is;
* `provisionScript_keeps` — to make and write a script leaves alone what the provisioner does,
  files and log apart.
-/

namespace SelfTrace

variable {α β γ σ : Type}

namespace Act

/-! ## Runs from one scene -/

/-- From a scene on, the result of the action and the scene after it are related. -/
def Leads (a : Act σ α) (s : Scene σ) (P : α → Scene σ → Prop) : Prop :=
  P (a.runOn s).1 (a.runOn s).2

theorem Leads.bind {a : Act σ α} {f : α → Act σ β} {s : Scene σ} {P : α → Scene σ → Prop}
    {Q : β → Scene σ → Prop} (h : a.Leads s P) (hnext : ∀ x t, P x t → (f x).Leads t Q) :
    (a >>= f).Leads s Q :=
  hnext _ _ h

theorem Leads.pure {x : α} {s : Scene σ} {P : α → Scene σ → Prop} (h : P x s) :
    (Pure.pure x : Act σ α).Leads s P :=
  h

/-! ## A part of the scene -/

/-- The action leaves a view of the scene as it is. -/
def Keeps (f : Scene σ → γ) (a : Act σ α) : Prop := ∀ s, f (a.runOn s).2 = f s

/-- The view shows neither files nor log. -/
def Unfiled (f : Scene σ → γ) : Prop :=
  ∀ s files log, f { s with files := files, log := log } = f s

namespace Keeps

variable {f : Scene σ → γ}

theorem pure (x : α) : (Pure.pure x : Act σ α).Keeps f := fun _ => rfl

theorem bind {a : Act σ α} {g : α → Act σ β} (h : a.Keeps f) (hnext : ∀ x, (g x).Keeps f) :
    (a >>= g).Keeps f := by
  intro s
  rw [runOn_bind]
  exact (hnext (a.runOn s).1 (a.runOn s).2).trans (h s)

theorem look (g : Files.Tree → α) : (Act.look g : Act σ α).Keeps f := fun _ => rfl

theorem emit (hf : Unfiled f) (e : Log.Event) : (Act.emit e : Act σ Unit).Keeps f :=
  fun s => hf s s.files (s.log ++ [e])

theorem change (hf : Unfiled f) (g : Files.Tree → Except Failure Files.Tree) :
    (Act.change g : Act σ _).Keeps f := by
  intro s
  cases h : g s.files with
  | ok files =>
    rw [runOn_change_ok h]
    exact hf s files s.log
  | error e => rw [runOn_change_error h]

theorem leads {a : Act σ α} (h : a.Keeps f) (s : Scene σ) : a.Leads s fun _ t => f t = f s := h s

end Keeps

end Act

/-! ## Script files -/

variable {f : Scene σ → γ}

theorem ScriptFile.make_keeps (hf : Act.Unfiled f) (m : Maker) : (make m : Act σ _).Keeps f := by
  intro s
  cases h : m.make s.files with
  | error reason => rw [runOn_make_error h]
  | ok made =>
    obtain ⟨file, files⟩ := made
    rw [runOn_make_ok h]
    exact hf s files s.log

theorem ScriptFile.remove_keeps (hf : Act.Unfiled f) (p : Path) : (remove p : Act σ _).Keeps f :=
  (Act.Keeps.change hf _).bind fun _ => .pure _

/-- Making and writing a script leaves alone what the provisioner leaves alone. -/
theorem provisionScript_keeps (hf : Act.Unfiled f) (d : Collaborators σ) (c : Config)
    (m : ScriptFile.Maker) (hprovision : ∀ resource file, (d.provision resource file).Keeps f) :
    (Agent.provisionScript d c m).Keeps f := by
  refine (ScriptFile.make_keeps hf m).bind ?_
  intro made
  cases made with
  | error e => exact .pure _
  | ok file =>
    refine (hprovision c.scriptResource file).bind ?_
    intro answer
    cases answer with
    | ok written => exact .pure _
    | error e => exact (ScriptFile.remove_keeps hf file).bind fun _ => .pure _

end SelfTrace
