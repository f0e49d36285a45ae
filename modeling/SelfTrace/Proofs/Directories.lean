import SelfTrace.Proofs.Places

/-!
# Directories and names in them

The directory that a path leads to, what a path to a name in it leads to, and what becomes of it
when a directory is made.

* `directory?_eq_some_iff` — a directory is where the names on the way to it lead;
* `resolve_join_cases` — a path to a name in a directory leads into that directory;
* `makeDir_extended` — to make a directory is to add it and nothing else;
* `makeDir_leads` — a directory that was made is there.
-/

namespace SelfTrace

namespace Files.Tree

/-! ## Directories -/

/-- A path that can be handed over. -/
structure Usable (p : Path) : Prop where
  noNul : p.contains 0 = false
  short : p.length ≤ maxPath

/-- Where a path starts. -/
def startOf (t : Tree) (p : Path) : Place := if Path.isAbsolute p then [] else t.workingDir

/-- The place of the directory that a path leads to, links followed; the empty path stands for the
working directory, as it does before a name. -/
def directory? (t : Tree) (p : Path) : Option Place :=
  if p.isEmpty then if t.isDir t.workingDir then some t.workingDir else none
  else match t.find true p with
    | .ok e => if e.node = .dir then some e.place else none
    | .error _ => none

theorem resolve_eq {t : Tree} {p : Path} (hp : p ≠ []) (h : Usable p) (purpose : Purpose) :
    t.resolve purpose p = t.walk purpose maxLinks (t.startOf p) (Path.rawNames p) := by
  have hshort : ¬maxPath < p.length := Nat.not_lt.2 h.short
  rw [resolve, h.noNul, if_neg (by simp), if_neg (by simpa using hp), if_neg hshort]
  rfl

theorem usable_of_resolve {t : Tree} {p : Path} {purpose : Purpose} {target : Target}
    (h : t.resolve purpose p = .ok target) : p ≠ [] ∧ Usable p := by
  unfold resolve at h
  split at h
  · cases h
  · next hnul =>
    split at h
    · cases h
    · next hempty =>
      split at h
      · cases h
      · next hlong => exact ⟨by simpa using hempty, by simpa using hnul, by omega⟩

/-- What is found at the end of a path is where the path leads. -/
theorem find_true_eq_ok_iff {t : Tree} {p : Path} {e : Entry} :
    t.find true p = .ok e ↔
      t.resolve .target p = .ok (.at e.place) ∧ t.entry? e.place = some e := by
  simp only [find, if_true]
  constructor
  · intro h
    split at h
    · cases h
    · cases h
    · next place hresolve =>
      split at h
      · next found hentry =>
        cases h
        have hplace := place_of_entry? hentry
        subst hplace
        exact ⟨hresolve, hentry⟩
      · cases h
  · intro h
    rw [h.1]
    dsimp only
    rw [h.2]

/-- A slash at the end of a path asks for a directory. -/
theorem reach_rawNames_iff {t : Tree} {links : Nat} {here q : Place} {p : Path}
    (hdir : t.isDir q = true) :
    (∃ left, t.reach links here (Path.rawNames p) = .ok (q, left)) ↔
      ∃ left, t.reach links here (Path.wayTo p) = .ok (q, left) := by
  have hslash : ∀ left, t.reach left q [[]] = .ok (q, left) := by
    intro left
    rw [reach_cons, onward_here hdir rfl]
    show t.reach left q [] = _
    rw [reach]
  rcases Path.rawNames_eq p with hnames | hnames
  · rw [hnames]
  · rw [hnames]
    constructor
    · intro h
      obtain ⟨left, h⟩ := h
      rw [reach_append] at h
      cases hway : t.reach links here (Path.wayTo p) with
      | error e =>
        rw [hway] at h
        cases h
      | ok r =>
        obtain ⟨q', left'⟩ := r
        rw [hway] at h
        have hend : t.reach left' q' [[]] = .ok (q, left) := h
        cases hq : t.isDir q' with
        | true =>
          rw [reach_cons, onward_here hq rfl] at hend
          have hstay : t.reach left' q' [] = .ok (q, left) := hend
          rw [reach] at hstay
          cases hstay
          exact ⟨_, rfl⟩
        | false =>
          have hsame := reach_of_not_dir hq hend
          dsimp only at hsame
          rw [← hsame, hdir] at hq
          cases hq
    · intro h
      obtain ⟨left, h⟩ := h
      rw [reach_append, h]
      exact ⟨left, hslash left⟩

/-- A directory is where the names on the way to it lead. -/
theorem directory?_eq_some_iff {t : Tree} {p : Path} {q : Place} :
    t.directory? p = some q ↔ Usable p ∧ t.isDir q = true ∧
      ∃ left, t.reach maxLinks (t.startOf p) (Path.wayTo p) = .ok (q, left) := by
  by_cases hp : p = []
  · subst hp
    have hway : Path.wayTo [] = [] := rfl
    have hstart : t.startOf [] = t.workingDir := rfl
    rw [directory?, if_pos (by simp), hway, hstart, reach]
    constructor
    · intro h
      split at h
      · next hdir =>
        cases h
        exact ⟨⟨rfl, Nat.zero_le _⟩, hdir, _, rfl⟩
      · cases h
    · intro h
      obtain ⟨-, hdir, left, hq⟩ := h
      cases hq
      rw [if_pos hdir]
  · rw [directory?, if_neg (by simpa using hp)]
    constructor
    · intro h
      split at h
      · next e hfind =>
        split at h
        · next hnode =>
          cases h
          obtain ⟨hresolve, hentry⟩ := find_true_eq_ok_iff.1 hfind
          have husable := (usable_of_resolve hresolve).2
          have hdir : t.isDir e.place = true := isDir_iff.2 ⟨e, hentry, hnode⟩
          rw [resolve_eq hp husable, walk_target_at_iff, reach_rawNames_iff hdir] at hresolve
          exact ⟨husable, hdir, hresolve⟩
        · cases h
      · cases h
    · intro h
      obtain ⟨husable, hdir, hreach⟩ := h
      obtain ⟨e, hentry, hnode⟩ := isDir_iff.1 hdir
      have hplace := place_of_entry? hentry
      rw [← reach_rawNames_iff hdir, ← walk_target_at_iff, ← resolve_eq hp husable] at hreach
      have hfind : t.find true p = .ok e := by
        rw [find_true_eq_ok_iff, hplace]
        exact ⟨hreach, hentry⟩
      rw [hfind]
      dsimp only
      rw [if_pos hnode, hplace]

theorem isDir_of_directory? {t : Tree} {p : Path} {q : Place} (h : t.directory? p = some q) :
    t.isDir q = true :=
  (directory?_eq_some_iff.1 h).2.1

theorem directory?_within {t t' : Tree} (h : t.Within t') (hworking : t'.workingDir = t.workingDir)
    {p : Path} {q : Place} (hp : t.directory? p = some q) : t'.directory? p = some q := by
  obtain ⟨husable, hdir, left, hreach⟩ := directory?_eq_some_iff.1 hp
  have hstart : t'.startOf p = t.startOf p := by rw [startOf, startOf, hworking]
  rw [directory?_eq_some_iff, hstart]
  exact ⟨husable, h.isDir hdir, left, reach_within h hreach⟩

theorem directory?_erase {t : Tree} {place : Place} {e : Entry} {content : Bytes}
    (hfile : t.entry? place = some e) (hnode : e.node = .file content) {p : Path} {q : Place}
    (hp : t.directory? p = some q) : (t.erase place).directory? p = some q := by
  have hplace := isDir_eq_false hfile (by simp [hnode])
  obtain ⟨husable, hdir, left, hreach⟩ := directory?_eq_some_iff.1 hp
  have hne : q ≠ place := by
    intro heq
    rw [heq, hplace] at hdir
    cases hdir
  have hstart : (t.erase place).startOf p = t.startOf p := rfl
  rw [directory?_eq_some_iff, hstart, isDir_erase hplace]
  exact ⟨husable, hdir, left, reach_erase hfile hnode hreach hne⟩

/-! ## Names in a directory -/

theorem Usable.of_join {p : Path} {n : Bytes} (hn : Path.slash ∉ n) (h : Usable (Path.join p n)) :
    Usable p where
  noNul := by
    have hnul := h.noNul
    rw [Path.join_eq (Path.isAbsolute_of_slash_not_mem hn), List.contains_eq_mem,
      decide_eq_false_iff_not, List.mem_append] at hnul
    rw [List.contains_eq_mem, decide_eq_false_iff_not]
    intro hmem
    exact hnul (.inl hmem)
  short := by
    have hshort := h.short
    rw [Path.join_eq (Path.isAbsolute_of_slash_not_mem hn), List.length_append] at hshort
    omega

theorem startOf_join {p : Path} {n : Bytes} (hn : Path.slash ∉ n) (t : Tree) :
    t.startOf (Path.join p n) = t.startOf p := by
  rw [startOf, startOf, Path.isAbsolute_join hn]

theorem join_ne_nil {p : Path} {n : Bytes} (hn : Path.slash ∉ n) (hne : n ≠ []) :
    Path.join p n ≠ [] := by
  rw [Path.join_eq (Path.isAbsolute_of_slash_not_mem hn)]
  simp [hne]

theorem Proper.ne_nil {n : Bytes} (h : Proper n) : n ≠ [] := by
  rintro rfl
  exact absurd h.named (by simp)

/-- A path to a name in a directory goes on from the directory. -/
theorem resolve_join {t : Tree} {p : Path} {q : Place} {n : Bytes}
    (hq : t.directory? p = some q) (hslash : Path.slash ∉ n) (hn : n ≠ [])
    (husable : Usable (Path.join p n)) (purpose : Purpose) :
    ∃ left, t.resolve purpose (Path.join p n) = t.walk purpose left q [n] := by
  obtain ⟨-, -, left, hreach⟩ := directory?_eq_some_iff.1 hq
  refine ⟨left, ?_⟩
  rw [resolve_eq (join_ne_nil hslash hn) husable, startOf_join hslash, Path.rawNames_join hslash,
    walk_concat _ _ _ _ _ hn, hreach]
  rfl

/-- What a name in a directory leads to when the last name is not followed, be it a link. -/
theorem walk_name {t : Tree} {here : Place} {n : Bytes} (hdir : t.isDir here = true)
    (hn : Proper n) (links : Nat) :
    t.walk .name links here [n] =
      if (t.entry? (here ++ [n])).isSome then .ok (.at (here ++ [n]))
      else .ok (.absent here n) := by
  rw [walk_proper hdir hn, asksDir_of_ne (by decide), if_neg Bool.false_ne_true]
  cases hentry : t.entry? (here ++ [n]) with
  | none => rfl
  | some e =>
    obtain ⟨place, node, mode, owner⟩ := e
    cases node with
    | file content => simp
    | dir => simp
    | link path => rfl

/-- What a path to a name leads to is what has the name in the directory. -/
theorem find_join_eq_ok_iff {t : Tree} {p : Path} {n : Bytes} {e : Entry} (hslash : Path.slash ∉ n)
    (hn : Proper n) (husable : Usable (Path.join p n)) :
    t.find false (Path.join p n) = .ok e ↔
      ∃ q, t.directory? p = some q ∧ t.entry? (q ++ [n]) = some e := by
  constructor
  · intro h
    obtain ⟨hresolve, hentry⟩ := resolve_of_find h
    rw [resolve_eq (join_ne_nil hslash hn.ne_nil) husable, startOf_join hslash,
      Path.rawNames_join hslash, walk_concat _ _ _ _ _ hn.ne_nil] at hresolve
    cases hreach : t.reach maxLinks (t.startOf p) (Path.wayTo p) with
    | error e =>
      rw [hreach] at hresolve
      cases hresolve
    | ok r =>
      obtain ⟨q, left⟩ := r
      rw [hreach] at hresolve
      have hwalk : t.walk .name left q [n] = .ok (.at e.place) := hresolve
      cases hdir : t.isDir q with
      | false =>
        rw [walk_not_dir hdir] at hwalk
        cases hwalk
      | true =>
        rw [walk_name hdir hn] at hwalk
        split at hwalk
        · have hplace : q ++ [n] = e.place := Target.at.inj (Except.ok.inj hwalk)
          rw [← hplace] at hentry
          exact ⟨q, directory?_eq_some_iff.2 ⟨husable.of_join hslash, hdir, left, hreach⟩, hentry⟩
        · cases hwalk
  · intro h
    obtain ⟨q, hq, hentry⟩ := h
    obtain ⟨left, hresolve⟩ := resolve_join hq hslash hn.ne_nil husable .name
    rw [walk_name (isDir_of_directory? hq) hn, hentry] at hresolve
    simp only [find, Bool.false_eq_true, if_false, hresolve, Option.isSome_some, if_true, hentry]

/-- What an attempt to remove a path to a name leaves: all but the file or the link that has the
name in the directory. -/
theorem entry?_removed_iff {t : Tree} {p : Path} {n : Bytes} (hslash : Path.slash ∉ n)
    (hn : Proper n) (husable : Usable (Path.join p n)) (place : Place) {e : Entry}
    (hnode : e.node ≠ .dir) :
    Tree.entry? (t.removed (Path.join p n)) place = some e ↔
      t.entry? place = some e ∧ ∀ q, t.directory? p = some q → place ≠ q ++ [n] := by
  cases hfind : t.find false (Path.join p n) with
  | error failure =>
    simp only [removed, remove, hfind]
    refine (and_iff_left_of_imp ?_).symm
    rintro hentry q hq rfl
    rw [(find_join_eq_ok_iff hslash hn husable).2 ⟨q, hq, hentry⟩] at hfind
    cases hfind
  | ok found =>
    obtain ⟨q, hq, hfound⟩ := (find_join_eq_ok_iff hslash hn husable).1 hfind
    by_cases hdir : found.node = .dir
    · -- a directory stays, and it is none of the others
      simp only [removed, remove, hfind, hdir]
      refine (and_iff_left_of_imp ?_).symm
      rintro hentry q' hq' rfl
      rw [hq] at hq'
      cases hq'
      rw [hfound] at hentry
      cases hentry
      exact hnode hdir
    · simp only [removed, remove, hfind, place_of_entry? hfound]
      by_cases hplace : place = q ++ [n]
      · subst hplace
        rw [entry?_erase_self (by simp)]
        simp [hq]
      · rw [entry?_erase_ne hplace, and_iff_left]
        intro q' hq'
        rw [hq] at hq'
        cases hq'
        exact hplace

/-- A path to a name that can be followed is one that can be handed over, and the name one that
something can have. -/
theorem proper_of_resolve_join {t : Tree} {p : Path} {n : Bytes} {purpose : Purpose}
    {target : Target} (hpurpose : purpose ≠ .name) (hslash : Path.slash ∉ n)
    (hnamed : (n.isEmpty || n == Path.dot) = false) (hup : (n == Path.dotDot) = false)
    (h : t.resolve purpose (Path.join p n) = .ok target) : Proper n ∧ Usable (Path.join p n) := by
  obtain ⟨hne, husable⟩ := usable_of_resolve h
  refine ⟨?_, husable⟩
  have hn : n ≠ [] := by
    rintro rfl
    exact absurd hnamed (by simp)
  rw [resolve_eq hne husable, Path.rawNames_join hslash, walk_concat _ _ _ _ _ hn] at h
  cases hreach : t.reach maxLinks (t.startOf (Path.join p n)) (Path.wayTo p) with
  | error e =>
    rw [hreach] at h
    cases h
  | ok r =>
    rw [hreach] at h
    rcases walk_cons_cases h with ⟨-, -, -, hproper, -⟩ | ⟨hname, -⟩ | ⟨r', hr, -⟩
    · exact hproper
    · exact absurd hname hpurpose
    · obtain ⟨-, ⟨hdot, -⟩ | ⟨hup', -⟩ | ⟨hproper, -⟩⟩ := onward_cases hr
      · rw [hnamed] at hdot
        cases hdot
      · rw [hup] at hup'
        cases hup'
      · exact hproper

/-- Wherever a path to a name leads which no link has, it leads into the directory. -/
theorem resolve_join_cases {t : Tree} {p : Path} {n : Bytes} {purpose : Purpose} {target : Target}
    (hslash : Path.slash ∉ n) (hnamed : (n.isEmpty || n == Path.dot) = false)
    (hup : (n == Path.dotDot) = false)
    (hnolink : ∀ q e path, t.directory? p = some q → t.entry? (q ++ [n]) = some e →
      e.node ≠ .link path)
    (h : t.resolve purpose (Path.join p n) = .ok target) :
    ∃ q, t.directory? p = some q ∧ Usable (Path.join p n) ∧ Proper n ∧
      ( t.entry? (q ++ [n]) = none ∧ target = .absent q n ∨
        ∃ e, t.entry? (q ++ [n]) = some e ∧ target = .at (q ++ [n])) := by
  obtain ⟨hne, husable⟩ := usable_of_resolve h
  have hn : n ≠ [] := by
    rintro rfl
    exact absurd hnamed (by simp)
  rw [resolve_eq hne husable, startOf_join hslash, Path.rawNames_join hslash,
    walk_concat _ _ _ _ _ hn] at h
  cases hreach : t.reach maxLinks (t.startOf p) (Path.wayTo p) with
  | error e =>
    rw [hreach] at h
    cases h
  | ok r =>
    obtain ⟨q, left⟩ := r
    rw [hreach] at h
    have hwalk : t.walk purpose left q [n] = .ok target := h
    have hleads : t.isDir q = true → t.directory? p = some q := by
      intro hdir
      exact directory?_eq_some_iff.2 ⟨husable.of_join hslash, hdir, left, hreach⟩
    -- the one name that is left is no dot, and no link has it
    rcases walk_cons_cases hwalk with
      ⟨-, hfree, hdir, hproper, hentry⟩ | ⟨-, -, -, hdir, e, path, hentry, hnode⟩ | ⟨r, hr, hrest⟩
    · exact ⟨q, hleads hdir, husable, hproper, .inl ⟨hentry, hfree⟩⟩
    · exact absurd hnode (hnolink q e path (hleads hdir) hentry)
    · obtain ⟨hdir, ⟨hdot, -⟩ | ⟨hup', -⟩ | ⟨hproper, e, hentry, hlink | hnode⟩⟩ := onward_cases hr
      · rw [hnamed] at hdot
        cases hdot
      · rw [hup] at hup'
        cases hup'
      · obtain ⟨path, -, hpath, -⟩ := hlink
        exact absurd hpath (hnolink q e path (hleads hdir) hentry)
      · cases hnode
        rw [List.append_nil, walk_nil] at hrest
        exact ⟨q, hleads hdir, husable, hproper, .inr ⟨e, hentry, (Except.ok.inj hrest).symm⟩⟩

/-! ## Making directories -/

theorem entry?_insert_self {t : Tree} {e : Entry} (h : e.place ≠ []) :
    Tree.entry? (t.insert e) e.place = some e := by
  rw [ entry?, if_neg (by simpa using h), insert, List.find?_append]
  have hgone : (t.entries.filter (·.place != e.place)).find? (·.place == e.place) = none := by
    rw [List.find?_eq_none]
    intro e' he'
    have hne : e'.place ≠ e.place := by simpa using (List.mem_filter.1 he').2
    simpa using hne
  rw [hgone]
  simp

theorem entry?_insert_ne {t : Tree} {e : Entry} {other : Place} (h : other ≠ e.place) :
    Tree.entry? (t.insert e) other = t.entry? other := by
  have herase := entry?_erase_ne (t := t) h
  rw [erase] at herase
  rw [← herase, entry?, entry?, insert, List.find?_append]
  have hnone : [e].find? (·.place == other) = none := by simp [Ne.symm h]
  rw [hnone, Option.or_none]

/-- Another tree has all that there is, and directories besides. -/
structure Extended (t t' : Tree) : Prop where
  workingDir : t'.workingDir = t.workingDir
  within : t.Within t'
  dirs : ∀ p e, t'.entry? p = some e → t.entry? p = some e ∨ t.entry? p = none ∧ e.node = .dir

theorem Extended.refl (t : Tree) : t.Extended t where
  workingDir := rfl
  within := fun _ _ h => h
  dirs := fun _ _ h => .inl h

theorem Extended.trans {t t' t'' : Tree} (h : t.Extended t') (h' : t'.Extended t'') :
    t.Extended t'' where
  workingDir := h'.workingDir.trans h.workingDir
  within := fun p e he => h'.within p e (h.within p e he)
  dirs := by
    intro p e he
    rcases h'.dirs p e he with he' | ⟨hnone, hnode⟩
    · exact h.dirs p e he'
    · refine .inr ⟨?_, hnode⟩
      cases ht : t.entry? p with
      | none => rfl
      | some e' =>
        rw [h.within p e' ht] at hnone
        cases hnone

/-- To put something at a free place takes nothing away. -/
theorem within_insert {t : Tree} {e : Entry} (hfree : t.entry? e.place = none) :
    t.Within (t.insert e) := by
  intro p e' he'
  have hne : p ≠ e.place := by
    rintro rfl
    rw [hfree] at he'
    cases he'
  rw [entry?_insert_ne hne, he']

theorem extended_insert {t : Tree} {e : Entry} (hfree : t.entry? e.place = none)
    (hnode : e.node = .dir) : t.Extended (t.insert e) where
  workingDir := rfl
  within := within_insert hfree
  dirs := by
    intro p e' he'
    by_cases hp : p = e.place
    · subst hp
      have hroot : e.place ≠ [] := by
        intro hroot
        rw [hroot] at hfree
        cases hfree
      rw [entry?_insert_self hroot] at he'
      cases he'
      exact .inr ⟨hfree, hnode⟩
    · rw [entry?_insert_ne hp] at he'
      exact .inl he'

/-- To write a file, new or known, moves no directory. -/
theorem directory?_insert {t : Tree} {e : Entry}
    (hfile : ∀ e', t.entry? e.place = some e' → ∃ content, e'.node = .file content) {p : Path}
    {q : Place} (hp : t.directory? p = some q) : (t.insert e).directory? p = some q := by
  cases hentry : t.entry? e.place with
  | none => exact directory?_within (within_insert hentry) rfl hp
  | some e' =>
    obtain ⟨content, hnode⟩ := hfile e' hentry
    have hroot : e.place ≠ [] := by
      intro hroot
      rw [hroot] at hentry
      cases hentry
      cases hnode
    -- the file is taken away and put back
    have hsplit : t.insert e = (t.erase e.place).insert e := by
      simp [insert, erase, List.filter_filter]
    rw [hsplit]
    exact directory?_within (within_insert (entry?_erase_self hroot)) rfl
      (directory?_erase hentry hnode hp)

/-- A free place is a name in a directory that nothing has. -/
theorem free_of_absent {t : Tree} {purpose : Purpose} {links : Nat} {here d : Place}
    {names : List Bytes} {n : Bytes}
    (h : t.walk purpose links here names = .ok (.absent d n)) : t.entry? (d ++ [n]) = none := by
  fun_induction t.reach links here names with
  | case1 links here =>
    rw [walk_nil] at h
    cases h
  | case2 links here m rest e hnext =>
    rcases walk_cons_cases h with ⟨-, hfree, -, -, hentry⟩ | ⟨-, -, hat, -⟩ | ⟨r, hr, -⟩
    · cases hfree
      exact hentry
    · cases hat
    · rw [hnext] at hr
      cases hr
  | case3 links here m rest left next more hnext ih =>
    rcases walk_cons_cases h with ⟨-, hfree, -, -, hentry⟩ | ⟨-, -, hat, -⟩ | ⟨r, hr, hrest⟩
    · cases hfree
      exact hentry
    · cases hat
    · rw [hnext] at hr
      cases hr
      exact ih hrest

/-- The path without slashes at its end, if more than slashes is left. -/
def barePath (p : Path) : Path := if (Path.bare p).isEmpty then p else Path.bare p

theorem rawNames_slashes {slashes : Bytes} (h : ∀ b ∈ slashes, b = Path.slash) :
    Path.rawNames slashes = [] :: slashes.map fun _ => [] := by
  induction slashes with
  | nil => rfl
  | cons b slashes ih =>
    have hb := h b List.mem_cons_self
    have hrest := ih fun b' hb' => h b' (List.mem_cons_of_mem b hb')
    rw [Path.rawNames] at hrest ⊢
    rw [Path.splitOn, if_pos (by simp [hb]), hrest]
    rfl

/-- A path has the names of its front, and an empty one for each slash at its end. -/
theorem rawNames_append_slashes (front : Path) {slashes : Bytes}
    (h : ∀ b ∈ slashes, b = Path.slash) :
    Path.rawNames (front ++ slashes) = Path.rawNames front ++ slashes.map fun _ => [] := by
  cases slashes with
  | nil => simp
  | cons b slashes =>
    have hb := h b List.mem_cons_self
    have hrest := rawNames_slashes fun b' hb' => h b' (List.mem_cons_of_mem b hb')
    rw [Path.rawNames] at hrest
    rw [hb, Path.rawNames, Path.splitOn_append, hrest]
    rfl

theorem barePath_append (p : Path) :
    ∃ slashes, p = barePath p ++ slashes ∧ ∀ b ∈ slashes, b = Path.slash := by
  rw [barePath]
  split
  · exact ⟨[], by simp, by simp⟩
  · refine ⟨(p.reverse.takeWhile (· == Path.slash)).reverse, ?_, ?_⟩
    · rw [Path.bare, ← List.reverse_append, List.takeWhile_append_dropWhile, List.reverse_reverse]
    · intro b hb
      have hslash := List.mem_takeWhile_imp (List.mem_reverse.1 hb)
      simpa using hslash

/-- At a directory empty names lead nowhere else. -/
theorem reach_empty {t : Tree} {q : Place} (hdir : t.isDir q = true) (links : Nat)
    (slashes : Bytes) : t.reach links q (slashes.map fun _ => []) = .ok (q, links) := by
  induction slashes with
  | nil =>
    rw [List.map_nil, reach]
  | cons b slashes ih =>
    rw [List.map_cons, reach_cons, onward_here hdir rfl]
    exact ih

theorem makeDir_cases {t t' : Tree} {p : Path} (h : t.makeDir p = .ok t') :
    ∃ d n, t.resolve .name (barePath p) = .ok (.absent d n) ∧
      t' = t.insert ⟨d ++ [n], .dir, 0o755, 0⟩ := by
  unfold makeDir at h
  split at h
  · cases h
  · cases h
  · next d n hresolve => exact ⟨d, n, hresolve, (Except.ok.inj h).symm⟩

theorem makeDir_extended {t t' : Tree} {p : Path} (h : t.makeDir p = .ok t') : t.Extended t' := by
  obtain ⟨d, n, hresolve, rfl⟩ := makeDir_cases h
  obtain ⟨hne, husable⟩ := usable_of_resolve hresolve
  rw [resolve_eq hne husable] at hresolve
  exact extended_insert (free_of_absent hresolve) rfl

/-- A directory that was made is there. -/
theorem makeDir_leads {t t' : Tree} {p : Path} (h : t.makeDir p = .ok t') (hp : Usable p) :
    ∃ q, t'.directory? p = some q := by
  obtain ⟨d, n, hresolve, rfl⟩ := makeDir_cases h
  obtain ⟨hne, husable⟩ := usable_of_resolve hresolve
  rw [resolve_eq hne husable] at hresolve
  have hfree := free_of_absent hresolve
  have hmade := entry?_insert_self (t := t) (e := ⟨d ++ [n], .dir, 0o755, 0⟩) (by simp)
  have hdir : (t.insert ⟨d ++ [n], .dir, 0o755, 0⟩).isDir (d ++ [n]) = true :=
    isDir_iff.2 ⟨_, hmade, rfl⟩
  obtain ⟨left, hreach⟩ := reach_of_absent (within_insert hfree) hresolve hmade (by simp)
  obtain ⟨slashes, hslashes, hall⟩ := barePath_append p
  have hstart : t.startOf (barePath p ++ slashes) = t.startOf (barePath p) := by
    obtain ⟨b, rest, hb⟩ := List.exists_cons_of_ne_nil hne
    rw [hb]
    rfl
  rw [← hslashes] at hstart
  refine ⟨d ++ [n], directory?_eq_some_iff.2 ⟨hp, hdir, ?_⟩⟩
  rw [← reach_rawNames_iff hdir]
  refine ⟨left, ?_⟩
  show reach _ maxLinks (t.startOf p) (Path.rawNames p) = _
  rw [hstart, hslashes, rawNames_append_slashes _ hall, reach_append, ← hslashes, hreach]
  exact reach_empty hdir left slashes

end Files.Tree

end SelfTrace
