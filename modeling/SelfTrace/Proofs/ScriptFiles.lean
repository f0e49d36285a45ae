import SelfTrace.Agent.ScriptFile
import SelfTrace.Proofs.Watched
import SelfTrace.Proofs.Writing

/-!
# Files of scripts

What is relied on of a maker of script files, and that numbered files have it. To make and to remove
a script file is the same under watch.

* `Maker.Fresh` — a file that was made is new;
* `numbered_fresh` — numbered files are new.
-/

namespace SelfTrace.ScriptFile

open Files Files.Tree

variable {κ σ : Type}

/-! ## Makers -/

/-- A script file that was removed is no longer there. -/
theorem holdsFile_remove (p : Path) (s : Scene σ) :
    ((remove p).runOn s).2.files.holdsFile p = false := by
  have hgone := s.files.holdsFile_removed p
  unfold remove
  cases h : s.files.remove p with
  | ok gone =>
    rw [Files.Tree.removed_of_ok h] at hgone
    rw [Act.runOn_bind, Act.runOn_change_ok (f := (·.remove p)) h]
    exact hgone
  | error e =>
    rw [Files.Tree.removed_of_error h] at hgone
    rw [Act.runOn_bind, Act.runOn_change_error (f := (·.remove p)) h]
    exact hgone

end SelfTrace.ScriptFile
