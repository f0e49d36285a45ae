import SelfTrace.Files.Access
import SelfTrace.Proofs.Walks

/-!
# What removing leaves behind

Main statements:

* `find_erase` — a path leads to nothing once what was at its end is erased;
* `holdsFile_removed` — after an attempt to remove a path there is neither a file nor a link at it,
  whether the attempt went well or not.
-/

namespace SelfTrace.Files.Tree

/-- A file or a link is at the end of a path; a link is not followed. -/
def holdsFile (t : Tree) (p : Path) : Bool :=
  match t.find false p with
  | .ok e => e.node != .dir
  | .error _ => false

/-! ## Erasing a place -/

theorem entry?_erase_self {t : Tree} {place : Place} (h : place ≠ []) :
    Tree.entry? (t.erase place) place = none := by
  simp [ entry?, erase, h, List.find?_eq_none]

theorem entry?_erase_ne {t : Tree} {place other : Place} (h : other ≠ place) :
    Tree.entry? (t.erase place) other = t.entry? other := by
  simp only [ entry?, erase, List.find?_filter]
  congr 2
  funext e
  by_cases he : e.place = other
  · simp [he, h]
  · simp [he]

theorem place_of_entry? {t : Tree} {place : Place} {e : Entry} (h : t.entry? place = some e) :
    e.place = place := by
  unfold entry? at h
  split at h
  · rename_i hroot
    cases h
    simpa [rootEntry] using hroot.symm
  · have hfound := List.find?_some h
    simpa using hfound

theorem isDir_eq_false {t : Tree} {place : Place} {e : Entry} (h : t.entry? place = some e)
    (hnode : e.node ≠ .dir) : t.isDir place = false := by
  simp [isDir, h, hnode]

/-- The root is a directory. -/
theorem ne_root_of_not_dir {t : Tree} {place : Place} (h : t.isDir place = false) : place ≠ [] := by
  rintro rfl
  cases h

/-- Erasing what is no directory takes away no directory. -/
theorem isDir_erase {t : Tree} {place : Place} (hplace : t.isDir place = false) (other : Place) :
    (t.erase place).isDir other = t.isDir other := by
  by_cases h : other = place
  · subst h
    have hroot := ne_root_of_not_dir hplace
    rw [hplace]
    simp [isDir, entry?_erase_self hroot]
  · simp only [isDir, entry?_erase_ne h]

/-! ## Following a path to what was erased -/

/-- A walk does not end at a place when nothing has the next name. -/
theorem walk_ne_at {t : Tree} {purpose : Purpose} {links : Nat} {here : Place} {n : Bytes}
    {rest : List Bytes} (hn : Proper n) (hnone : t.entry? (here ++ [n]) = none) (q : Place) :
    t.walk purpose links here (n :: rest) ≠ .ok (.at q) := by
  intro h
  cases hdir : t.isDir here with
  | false =>
    rw [walk_not_dir hdir] at h
    cases h
  | true =>
    rw [walk_proper hdir hn, hnone] at h
    dsimp only at h
    split at h
    · cases h
    · split at h <;> cases h

/-- A walk that led to a place leads to no entry once the place is erased: it goes the same way,
and ends where the place was. -/
theorem walk_erase {t : Tree} {place : Place} (hplace : t.isDir place = false) (purpose : Purpose)
    (links : Nat) (here : Place) (names : List Bytes)
    (hwalk : t.walk purpose links here names = .ok (.at place)) :
    ∀ q, (t.erase place).walk purpose links here names = .ok (.at q) →
      Tree.entry? (t.erase place) q = none := by
  have hgone := entry?_erase_self (t := t) (ne_root_of_not_dir hplace)
  -- with the same number of links names get less, and behind a link any may follow
  induction links using Nat.strongRecOn generalizing here names with
  | ind links followed =>
  induction names generalizing here with
  | nil =>
    intro q hq
    rw [walk_nil] at hwalk hq
    cases hwalk
    cases hq
    exact hgone
  | cons n rest ih =>
    intro q hq
    cases hdir : t.isDir here with
    | false =>
      rw [walk_not_dir hdir] at hwalk
      cases hwalk
    | true =>
    have hdir' := (isDir_erase hplace here).trans hdir
    cases nameKind n with
    | here hhere =>
      rw [walk_here hdir hhere] at hwalk
      rw [walk_here hdir' hhere] at hq
      exact ih here hwalk q hq
    | up hhere hup =>
      rw [walk_up hdir hhere hup] at hwalk
      rw [walk_up hdir' hhere hup] at hq
      exact ih here.dropLast hwalk q hq
    | long hhere hup hlong =>
      rw [walk_long hdir hhere hup hlong] at hwalk
      split at hwalk <;> cases hwalk
    | proper hn =>
      by_cases hplaced : here ++ [n] = place
      · exact absurd hq (walk_ne_at hn (hplaced ▸ hgone) q)
      rw [walk_proper hdir hn] at hwalk
      rw [walk_proper hdir' hn, entry?_erase_ne hplaced] at hq
      split at hwalk
      · cases hwalk
      next hasks =>
      rw [if_neg hasks] at hq
      cases hentry : t.entry? (here ++ [n]) with
      | none =>
        rw [hentry] at hwalk
        dsimp only at hwalk
        split at hwalk <;> cases hwalk
      | some e =>
        obtain ⟨_, node, mode, owner⟩ := e
        rw [hentry] at hwalk hq
        cases node with
        | file content => exact ih _ hwalk q hq
        | dir => exact ih _ hwalk q hq
        | link target =>
          dsimp only at hwalk hq
          split at hwalk
          · -- the walk would end at a link that is still there
            cases hwalk
            exact absurd rfl hplaced
          next hlast =>
          rw [if_neg hlast] at hq
          cases links with
          | zero => cases hwalk
          | succ left => exact followed left (Nat.lt_succ_self left) _ _ hwalk q hq

/-! ## Removing -/

/-- What an attempt to remove a path leaves: all that there was, if it failed. -/
def removed (t : Tree) (p : Path) : Tree :=
  match t.remove p with
  | .ok gone => gone
  | .error _ => t

theorem removed_of_ok {t gone : Tree} {p : Path} (h : t.remove p = .ok gone) :
    t.removed p = gone := by rw [removed, h]

theorem removed_of_error {t : Tree} {p : Path} {e : Failure} (h : t.remove p = .error e) :
    t.removed p = t := by rw [removed, h]

/-- What is found at a path is at the place where the path leads. -/
theorem resolve_of_find {t : Tree} {p : Path} {e : Entry} (h : t.find false p = .ok e) :
    t.resolve .name p = .ok (.at e.place) ∧ t.entry? e.place = some e := by
  simp only [find, Bool.false_eq_true, if_false] at h
  split at h
  · cases h
  · cases h
  · rename_i place hresolve
    split at h
    · rename_i found hentry
      cases h
      have hplace := place_of_entry? hentry
      subst hplace
      exact ⟨hresolve, hentry⟩
    · cases h

/-- A path leads to nothing once what was at its end is erased. -/
theorem find_erase {t : Tree} {p : Path} {e : Entry} (h : t.find false p = .ok e)
    (hnode : e.node ≠ .dir) (other : Entry) : (t.erase e.place).find false p ≠ .ok other := by
  obtain ⟨hresolve, hentry⟩ := resolve_of_find h
  have hplace := isDir_eq_false hentry hnode
  intro hother
  obtain ⟨hagain, hthere⟩ := resolve_of_find hother
  have hnone : Tree.entry? (t.erase e.place) other.place = none := by
    unfold resolve at hresolve hagain
    split at hresolve
    · cases hresolve
    · split at hresolve
      · cases hresolve
      · split at hresolve
        · cases hresolve
        · rename_i hnul hempty hlong
          rw [if_neg hnul, if_neg hempty, if_neg hlong] at hagain
          exact walk_erase hplace .name maxLinks _ _ hresolve other.place hagain
  rw [hnone] at hthere
  cases hthere

/-- After an attempt to remove a path there is neither a file nor a link at it: what there was is
gone, and where the attempt failed there was nothing or a directory. -/
theorem holdsFile_removed (t : Tree) (p : Path) : (t.removed p).holdsFile p = false := by
  cases hfind : t.find false p with
  | error e => simp [removed, remove, holdsFile, hfind]
  | ok e =>
    by_cases hnode : e.node = .dir
    · simp [removed, remove, holdsFile, hfind, hnode]
    · have hremove : t.remove p = .ok (t.erase e.place) := by
        simp only [remove, hfind]
      rw [removed_of_ok hremove]
      unfold holdsFile
      split
      · rename_i other hother
        exact absurd hother (find_erase hfind hnode other)
      · rfl

/-- To remove a file or a link takes away no directory. -/
theorem isDir_removed {t : Tree} {place : Place} (hdir : t.isDir place = true) (p : Path) :
    (t.removed p).isDir place = true := by
  cases hremove : t.remove p with
  | error e =>
    rw [removed_of_error hremove]
    exact hdir
  | ok gone =>
    rw [removed_of_ok hremove]
    unfold remove at hremove
    split at hremove
    · cases hremove
    · next e hfind =>
      split at hremove
      · cases hremove
      · next hnode =>
        have hfile : t.isDir e.place = false := by
          simpa [isDir, (resolve_of_find hfind).2] using hnode
        cases hremove
        rw [isDir_erase hfile]
        exact hdir

end SelfTrace.Files.Tree
