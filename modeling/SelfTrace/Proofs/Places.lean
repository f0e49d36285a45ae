import Mathlib.Data.List.TakeWhile
import SelfTrace.Proofs.Removal

/-!
# Places that paths lead to

A path below a directory leads to the directory and on from there. A walk through directories goes
the same way when more is put into the tree, and when a file is taken out of it.

* `Tree.reach` — where names lead that are all there, and how many links may still be followed;
* `Tree.walk_concat` — a walk to a name in a directory;
* `Tree.reach_within`, `Tree.reach_erase` — trees in which names lead to the same place.
-/

namespace SelfTrace

/-! ## Paths below a directory -/

namespace Path

variable {sep : UInt8} {n : Bytes}

theorem splitOn_of_not_mem (h : sep ∉ n) : splitOn sep n = [n] := by
  induction n with
  | nil => rfl
  | cons b n ih =>
    rw [List.mem_cons, not_or] at h
    have hb : ¬(b == sep) = true := by
      intro heq
      exact h.1 (eq_of_beq heq).symm
    rw [splitOn, if_neg hb, ih h.2]

theorem splitOn_append (before after : Bytes) :
    splitOn sep (before ++ sep :: after) = splitOn sep before ++ splitOn sep after := by
  induction before with
  | nil => simp [splitOn]
  | cons b before ih =>
    rw [List.cons_append, splitOn, splitOn]
    by_cases hb : b == sep
    · rw [if_pos hb, if_pos hb, ih, List.cons_append]
    · rw [if_neg hb, if_neg hb, ih]
      obtain ⟨part, parts, hparts⟩ := List.exists_cons_of_ne_nil (splitOn_ne_nil sep before)
      rw [hparts]
      rfl

theorem not_mem_of_mem_splitOn {bs : Bytes} (h : n ∈ splitOn sep bs) : sep ∉ n := by
  induction bs generalizing n with
  | nil =>
    rcases List.mem_singleton.1 h with rfl
    simp
  | cons b bs ih =>
    rw [splitOn] at h
    by_cases hb : b == sep
    · rw [if_pos hb, List.mem_cons] at h
      rcases h with rfl | h
      · simp
      · exact ih h
    · rw [if_neg hb] at h
      rcases List.exists_cons_of_ne_nil (splitOn_ne_nil sep bs) with ⟨part, parts, hparts⟩
      rw [hparts] at h ih
      rcases List.mem_cons.1 h with rfl | h
      · have hpart := ih List.mem_cons_self
        simpa [Ne.symm (show b ≠ sep by simpa using hb)] using hpart
      · exact ih (List.mem_cons_of_mem _ h)

/-- The names on the way to a directory, the last slash left out. -/
def wayTo (dir : Path) : List Bytes :=
  if dir.isEmpty || dir.getLast? == some slash then (rawNames dir).dropLast else rawNames dir

theorem isAbsolute_of_slash_not_mem (h : slash ∉ n) : isAbsolute n = false := by
  cases n with
  | nil => rfl
  | cons b n =>
    rw [List.mem_cons, not_or] at h
    simp [isAbsolute, Ne.symm h.1]

/-- What stands between a directory and a name in it. -/
def gap (dir : Path) : Bytes :=
  if dir.isEmpty || dir.getLast? == some slash then [] else [slash]

theorem join_eq (h : isAbsolute n = false) (dir : Path) :
    join dir n = dir ++ (gap dir ++ n) := by
  rw [join, if_neg (by simp [h]), gap]
  by_cases hempty : dir = []
  · simp [hempty]
  · by_cases hlast : dir.getLast? = some slash
    · simp [hempty, hlast]
    · simp [hempty, hlast]

theorem join_inj {n' : Bytes} (h : isAbsolute n = false) (h' : isAbsolute n' = false)
    (dir : Path) :
    join dir n = join dir n' ↔ n = n' := by
  rw [join_eq h, join_eq h', List.append_cancel_left_eq, List.append_cancel_left_eq]

theorem isAbsolute_join (h : slash ∉ n) (dir : Path) :
    isAbsolute (join dir n) = isAbsolute dir := by
  have hrelative := isAbsolute_of_slash_not_mem h
  rw [join_eq hrelative]
  cases dir with
  | nil => exact hrelative
  | cons b dir => rfl

/-- The names of a path below a directory are those on the way to it and then its own. -/
theorem rawNames_join_relative (h : isAbsolute n = false) (dir : Path) :
    rawNames (join dir n) = wayTo dir ++ rawNames n := by
  rw [join_eq h, gap, wayTo]
  by_cases hempty : dir = []
  · simp [hempty, rawNames, splitOn]
  · by_cases hlast : dir.getLast? = some slash
    · obtain ⟨front, rfl⟩ := List.getLast?_eq_some_iff.1 hlast
      rw [if_pos (by simp), if_pos (by simp), List.nil_append, List.append_assoc, rawNames,
        rawNames, List.singleton_append, splitOn_append, splitOn_append, rawNames]
      simp [splitOn]
    · rw [if_neg (by simp [hempty, hlast]), if_neg (by simp [hempty, hlast]), rawNames,
        List.singleton_append, splitOn_append]
      rfl

theorem rawNames_join (h : slash ∉ n) (dir : Path) :
    rawNames (join dir n) = wayTo dir ++ [n] := by
  rw [rawNames_join_relative (isAbsolute_of_slash_not_mem h), rawNames, splitOn_of_not_mem h]

/-- A path has the names on its way, and an empty one if it is empty or ends with a slash. -/
theorem rawNames_eq (dir : Path) : rawNames dir = wayTo dir ∨ rawNames dir = wayTo dir ++ [[]] := by
  rw [wayTo]
  by_cases hempty : dir = []
  · subst hempty
    exact .inr rfl
  · by_cases hlast : dir.getLast? = some slash
    · obtain ⟨front, rfl⟩ := List.getLast?_eq_some_iff.1 hlast
      have hsplit : rawNames (front ++ [slash]) = rawNames front ++ [[]] := by
        rw [rawNames, splitOn_append]
        rfl
      rw [if_pos (by simp), hsplit, List.dropLast_concat]
      exact .inr rfl
    · rw [if_neg (by simp [hempty, hlast])]
      exact .inl rfl

end Path

/-! ## Names on the way -/

namespace Files.Tree

/-- What a name that is not the last comes to: how many links may still be followed, the place from
which to go on, and the names to follow before the rest. -/
def onward (t : Tree) (links : Nat) (here : Place) (n : Bytes) :
    Except Failure (Nat × Place × List Bytes) :=
  if !t.isDir here then .error .notDirectory
  else if n.isEmpty || n == Path.dot then .ok (links, here, [])
  else if n == Path.dotDot then .ok (links, here.dropLast, [])
  else if maxName < n.length then .error .nameTooLong
  else match t.entry? (here ++ [n]) with
    | none => .error .noEntry
    | some ⟨_, .link target, _, _⟩ =>
      match links with
      | 0 => .error .tooManyLinks
      | links + 1 =>
        .ok (links, if Path.isAbsolute target then [] else here, Path.rawNames target)
    | some _ => .ok (links, here ++ [n], [])

section

variable {t : Tree} {links : Nat} {here : Place} {n : Bytes}

theorem onward_not_dir (h : t.isDir here = false) :
    t.onward links here n = .error .notDirectory := by
  rw [onward, h]
  rfl

theorem onward_here (hdir : t.isDir here = true) (h : (n.isEmpty || n == Path.dot) = true) :
    t.onward links here n = .ok (links, here, []) := by
  rw [onward, hdir, h]
  rfl

theorem onward_up (hdir : t.isDir here = true) (hhere : (n.isEmpty || n == Path.dot) = false)
    (h : (n == Path.dotDot) = true) :
    t.onward links here n = .ok (links, here.dropLast, []) := by
  rw [onward, hdir, hhere, h]
  rfl

theorem onward_long (hdir : t.isDir here = true) (hhere : (n.isEmpty || n == Path.dot) = false)
    (hup : (n == Path.dotDot) = false) (h : maxName < n.length) :
    t.onward links here n = .error .nameTooLong := by
  rw [onward, hdir, hhere, hup, if_pos h]
  rfl

theorem onward_proper (hdir : t.isDir here = true) (hn : Proper n) :
    t.onward links here n =
      match t.entry? (here ++ [n]) with
      | none => .error .noEntry
      | some ⟨_, .link target, _, _⟩ =>
        match links with
        | 0 => .error .tooManyLinks
        | links + 1 =>
          .ok (links, if Path.isAbsolute target then [] else here, Path.rawNames target)
      | some _ => .ok (links, here ++ [n], []) := by
  rw [onward, hdir, hn.named, hn.notUp, if_neg (Nat.not_lt.2 hn.short)]
  rfl

end

/-- What a name can come to: the directory itself, the one above, what a link leads to, or what
has the name. -/
theorem onward_cases {t : Tree} {links : Nat} {here : Place} {n : Bytes}
    {r : Nat × Place × List Bytes} (h : t.onward links here n = .ok r) :
    t.isDir here = true ∧
      ((n.isEmpty || n == Path.dot) = true ∧ r = (links, here, []) ∨
        (n == Path.dotDot) = true ∧ r = (links, here.dropLast, []) ∨
        Proper n ∧ ∃ e, t.entry? (here ++ [n]) = some e ∧
          ((∃ path left, e.node = .link path ∧ links = left + 1 ∧
              r = (left, if Path.isAbsolute path then [] else here, Path.rawNames path)) ∨
            r = (links, here ++ [n], []))) := by
  cases hdir : t.isDir here with
  | false =>
    rw [onward_not_dir hdir] at h
    cases h
  | true =>
  refine ⟨rfl, ?_⟩
  cases nameKind n with
  | here hhere =>
    rw [onward_here hdir hhere] at h
    exact .inl ⟨hhere, (Except.ok.inj h).symm⟩
  | up hhere hup =>
    rw [onward_up hdir hhere hup] at h
    exact .inr (.inl ⟨hup, (Except.ok.inj h).symm⟩)
  | long hhere hup hlong =>
    rw [onward_long hdir hhere hup hlong] at h
    cases h
  | proper hn =>
    refine .inr (.inr ⟨hn, ?_⟩)
    rw [onward_proper hdir hn] at h
    cases hentry : t.entry? (here ++ [n]) with
    | none =>
      rw [hentry] at h
      cases h
    | some e =>
      obtain ⟨place, node, mode, owner⟩ := e
      rw [hentry] at h
      refine ⟨_, rfl, ?_⟩
      cases node with
      | file content => exact .inr (Except.ok.inj h).symm
      | dir => exact .inr (Except.ok.inj h).symm
      | link path =>
        cases links with
        | zero => cases h
        | succ left => exact .inl ⟨path, left, rfl, rfl, (Except.ok.inj h).symm⟩

/-- Names are followed with one link less, or there are less names. -/
theorem onward_decreases {t : Tree} {links left : Nat} {here next : Place} {n : Bytes}
    {more : List Bytes} (h : t.onward links here n = .ok (left, next, more)) :
    left < links ∨ left = links ∧ more = [] := by
  obtain ⟨-, ⟨-, hstay⟩ | ⟨-, hup⟩ | ⟨-, e, -, ⟨_, _, -, hlinks, hlink⟩ | hnode⟩⟩ := onward_cases h
  · cases hstay
    exact .inr ⟨rfl, rfl⟩
  · cases hup
    exact .inr ⟨rfl, rfl⟩
  · cases hlink
    exact .inl (by omega)
  · cases hnode
    exact .inr ⟨rfl, rfl⟩

/-- A name comes to the same in a tree that holds what there is on the way. -/
theorem onward_eq_ok {t t' : Tree} {links : Nat} {here : Place} {n : Bytes}
    {r : Nat × Place × List Bytes} (h : t.onward links here n = .ok r)
    (hdir : t'.isDir here = t.isDir here)
    (hentry : Proper n → ∀ e, t.entry? (here ++ [n]) = some e →
      t'.entry? (here ++ [n]) = some e) :
    t'.onward links here n = .ok r := by
  have hthere := (onward_cases h).1
  have hthere' := hdir.trans hthere
  cases nameKind n with
  | here hhere =>
    rw [onward_here hthere hhere] at h
    rw [onward_here hthere' hhere, h]
  | up hhere hup =>
    rw [onward_up hthere hhere hup] at h
    rw [onward_up hthere' hhere hup, h]
  | long hhere hup hlong =>
    rw [onward_long hthere hhere hup hlong] at h
    cases h
  | proper hn =>
    rw [onward_proper hthere hn] at h
    rw [onward_proper hthere' hn]
    cases he : t.entry? (here ++ [n]) with
    | none =>
      rw [he] at h
      cases h
    | some e =>
      rw [he] at h
      rw [hentry hn e he]
      exact h

/-- A walk goes on with a name that is not the last as `onward` says. -/
theorem walk_cons (t : Tree) {purpose : Purpose} (links : Nat) (here : Place) (n : Bytes)
    {rest : List Bytes} (hrest : rest ≠ []) (hfile : purpose = .file → ∃ m ∈ rest, m ≠ []) :
    t.walk purpose links here (n :: rest) =
      t.onward links here n >>= fun r => t.walk purpose r.1 r.2.1 (r.2.2 ++ rest) := by
  have hasks : ¬asksDir purpose rest = true := by
    intro h
    simp only [asksDir, Bool.and_eq_true, decide_eq_true_eq, List.all_eq_true,
      List.isEmpty_iff] at h
    obtain ⟨m, hm, hne⟩ := hfile h.1.1
    exact hne (h.2 m hm)
  have hempty : rest.isEmpty = false := by simpa using hrest
  cases hdir : t.isDir here with
  | false =>
    rw [walk_not_dir hdir, onward_not_dir hdir]
    rfl
  | true =>
  cases nameKind n with
  | here hhere =>
    rw [walk_here hdir hhere, onward_here hdir hhere]
    rfl
  | up hhere hup =>
    rw [walk_up hdir hhere hup, onward_up hdir hhere hup]
    rfl
  | long hhere hup hlong =>
    rw [walk_long hdir hhere hup hlong, onward_long hdir hhere hup hlong, if_neg hasks]
    rfl
  | proper hn =>
    rw [walk_proper hdir hn, onward_proper hdir hn, if_neg hasks, hempty]
    cases t.entry? (here ++ [n]) with
    | none => rfl
    | some e =>
      obtain ⟨place, node, mode, owner⟩ := e
      cases node with
      | file content => rfl
      | dir => rfl
      | link target =>
        cases links with
        | zero => rfl
        | succ links => rfl

/-- Follows names that must all be there: the place that they lead to, and how many links may still
be followed. -/
def reach (t : Tree) (links : Nat) (here : Place) : List Bytes → Except Failure (Place × Nat)
  | [] => .ok (here, links)
  | n :: rest =>
    match _hnext : t.onward links here n with
    | .error e => .error e
    | .ok (left, next, more) => reach t left next (more ++ rest)
termination_by names => (links, names.length)
decreasing_by
  rcases onward_decreases _hnext with hless | ⟨rfl, rfl⟩
  · exact Prod.Lex.left _ _ hless
  · exact Prod.Lex.right _ (Nat.lt_succ_self _)

theorem reach_cons (t : Tree) (links : Nat) (here : Place) (n : Bytes) (rest : List Bytes) :
    t.reach links here (n :: rest) =
      t.onward links here n >>= fun r => t.reach r.1 r.2.1 (r.2.2 ++ rest) := by
  rw [reach]
  split
  · next h =>
    rw [h]
    rfl
  · next h =>
    rw [h]
    rfl

/-! ## Walks -/

/-- A walk to a name goes through what the names before it lead to. -/
theorem walk_concat (t : Tree) (purpose : Purpose) (links : Nat) (here : Place)
    (names : List Bytes) {n : Bytes} (hn : n ≠ []) :
    t.walk purpose links here (names ++ [n]) =
      t.reach links here names >>= fun r => t.walk purpose r.2 r.1 [n] := by
  fun_induction t.reach links here names with
  | case1 links here => rfl
  | case2 links here m rest e hnext =>
    rw [List.cons_append, walk_cons t links here m (by simp) (fun _ => ⟨n, by simp, hn⟩), hnext]
    rfl
  | case3 links here m rest left next more hnext ih =>
    rw [List.cons_append, walk_cons t links here m (by simp) (fun _ => ⟨n, by simp, hn⟩), hnext,
      ← ih, List.append_assoc]
    rfl

theorem reach_append (t : Tree) (links : Nat) (here : Place) (names more : List Bytes) :
    t.reach links here (names ++ more) =
      t.reach links here names >>= fun r => t.reach r.2 r.1 more := by
  fun_induction t.reach links here names with
  | case1 links here => rfl
  | case2 links here m rest e hnext =>
    rw [List.cons_append, reach_cons, hnext]
    rfl
  | case3 links here m rest left next more' hnext ih =>
    rw [List.cons_append, reach_cons, hnext, ← ih, List.append_assoc]
    rfl

/-- What the first name of a walk can be: a name that is free, a link that is not followed, or a
name that leads on. -/
theorem walk_cons_cases {t : Tree} {purpose : Purpose} {links : Nat} {here : Place} {n : Bytes}
    {rest : List Bytes} {target : Target}
    (h : t.walk purpose links here (n :: rest) = .ok target) :
    (rest = [] ∧ target = .absent here n ∧ t.isDir here = true ∧ Proper n ∧
        t.entry? (here ++ [n]) = none) ∨
      (purpose = .name ∧ rest = [] ∧ target = .at (here ++ [n]) ∧ t.isDir here = true ∧
        ∃ e path, t.entry? (here ++ [n]) = some e ∧ e.node = .link path) ∨
      ∃ r, t.onward links here n = .ok r ∧
        t.walk purpose r.1 r.2.1 (r.2.2 ++ rest) = .ok target := by
  cases hdir : t.isDir here with
  | false =>
    rw [walk_not_dir hdir] at h
    cases h
  | true =>
  cases nameKind n with
  | here hhere =>
    rw [walk_here hdir hhere] at h
    exact .inr (.inr ⟨_, onward_here hdir hhere, h⟩)
  | up hhere hup =>
    rw [walk_up hdir hhere hup] at h
    exact .inr (.inr ⟨_, onward_up hdir hhere hup, h⟩)
  | long hhere hup hlong =>
    rw [walk_long hdir hhere hup hlong] at h
    split at h <;> cases h
  | proper hn =>
    rw [walk_proper hdir hn] at h
    rw [onward_proper hdir hn]
    split at h
    · cases h
    cases hentry : t.entry? (here ++ [n]) with
    | none =>
      rw [hentry] at h
      dsimp only at h
      split at h
      · next hrest =>
        exact .inl ⟨by simpa using hrest, (Except.ok.inj h).symm, rfl, hn, rfl⟩
      · cases h
    | some e =>
      obtain ⟨place, node, mode, owner⟩ := e
      rw [hentry] at h
      cases node with
      | file content => exact .inr (.inr ⟨_, rfl, h⟩)
      | dir => exact .inr (.inr ⟨_, rfl, h⟩)
      | link path =>
        dsimp only at h
        split at h
        · -- the last name is a link, and is asked for itself
          next hlast =>
          simp only [Bool.and_eq_true, List.isEmpty_iff, decide_eq_true_eq] at hlast
          exact .inr (.inl ⟨hlast.2, hlast.1, (Except.ok.inj h).symm, rfl, _, path, rfl, rfl⟩)
        · cases links with
          | zero => cases h
          | succ links => exact .inr (.inr ⟨_, rfl, h⟩)

/-- A name that leads on is followed, unless it is the last one, which a link is asked for
itself. -/
theorem walk_of_onward {t : Tree} {purpose : Purpose} (hpurpose : purpose ≠ .file) {links : Nat}
    {here : Place} {n : Bytes} {r : Nat × Place × List Bytes} (h : t.onward links here n = .ok r)
    (rest : List Bytes) :
    t.walk purpose links here (n :: rest) = t.walk purpose r.1 r.2.1 (r.2.2 ++ rest) ∨
      purpose = .name ∧ t.walk purpose links here (n :: rest) = .ok (.at (here ++ [n])) := by
  have hdir := (onward_cases h).1
  cases nameKind n with
  | here hhere =>
    rw [onward_here hdir hhere] at h
    rw [walk_here hdir hhere, ← Except.ok.inj h]
    exact .inl rfl
  | up hhere hup =>
    rw [onward_up hdir hhere hup] at h
    rw [walk_up hdir hhere hup, ← Except.ok.inj h]
    exact .inl rfl
  | long hhere hup hlong =>
    rw [onward_long hdir hhere hup hlong] at h
    cases h
  | proper hn =>
    rw [onward_proper hdir hn] at h
    rw [walk_proper hdir hn, asksDir_of_ne hpurpose, if_neg Bool.false_ne_true]
    cases hentry : t.entry? (here ++ [n]) with
    | none =>
      rw [hentry] at h
      cases h
    | some e =>
      obtain ⟨place, node, mode, owner⟩ := e
      rw [hentry] at h
      cases node with
      | file content =>
        rw [← Except.ok.inj h]
        exact .inl rfl
      | dir =>
        rw [← Except.ok.inj h]
        exact .inl rfl
      | link path =>
        cases links with
        | zero => cases h
        | succ links =>
          rw [← Except.ok.inj h]
          dsimp only
          split
          · next hlast =>
            simp only [Bool.and_eq_true, decide_eq_true_eq] at hlast
            exact .inr ⟨hlast.2, rfl⟩
          · exact .inl rfl

/-- What is followed to the end is followed by its last name, too. -/
theorem walk_target_of_onward {t : Tree} {links : Nat} {here : Place} {n : Bytes}
    {r : Nat × Place × List Bytes} (h : t.onward links here n = .ok r) (rest : List Bytes) :
    t.walk .target links here (n :: rest) = t.walk .target r.1 r.2.1 (r.2.2 ++ rest) :=
  (walk_of_onward (by decide) h rest).resolve_right fun hname => absurd hname.1 (by decide)

/-- Where names lead there is something that has the last of them, be it a link. -/
theorem walk_name_of_reach {t : Tree} {links : Nat} {here : Place} {names : List Bytes}
    {r : Place × Nat} (h : t.reach links here names = .ok r) :
    ∃ q, t.walk .name links here names = .ok (.at q) := by
  fun_induction t.reach links here names with
  | case1 links here =>
    rw [walk_nil]
    exact ⟨here, rfl⟩
  | case2 links here n rest e hnext => cases h
  | case3 links here n rest left next more hnext ih =>
    rcases walk_of_onward (by decide : Purpose.name ≠ .file) hnext rest with hon | ⟨-, hlast⟩
    · rw [hon]
      exact ih h
    · exact ⟨_, hlast⟩

/-- A walk leads through a directory before each of its names. -/
theorem reach_of_walk {t : Tree} {purpose : Purpose} {links : Nat} {here : Place}
    {names : List Bytes} {n : Bytes} {rest : List Bytes} {target : Target}
    (h : t.walk purpose links here (names ++ n :: rest) = .ok target) :
    ∃ q left, t.reach links here names = .ok (q, left) ∧ t.isDir q = true := by
  fun_induction t.reach links here names with
  | case1 links here =>
    refine ⟨here, links, rfl, ?_⟩
    rcases walk_cons_cases h with ⟨-, -, hdir, -⟩ | ⟨-, -, -, hdir, -⟩ | ⟨r, hr, -⟩
    · exact hdir
    · exact hdir
    · exact (onward_cases hr).1
  | case2 links here m names e hnext =>
    rcases walk_cons_cases h with ⟨hnil, -⟩ | ⟨-, hnil, -⟩ | ⟨r, hr, -⟩
    · simp at hnil
    · simp at hnil
    · rw [hnext] at hr
      cases hr
  | case3 links here m names left next more hnext ih =>
    rcases walk_cons_cases h with ⟨hnil, -⟩ | ⟨-, hnil, -⟩ | ⟨r, hr, hrest⟩
    · simp at hnil
    · simp at hnil
    · rw [hnext] at hr
      cases hr
      refine ih ?_
      rw [List.append_assoc]
      exact hrest

/-- A walk that follows its last name to something ends where the names lead. -/
theorem reach_of_walk_at {t : Tree} {purpose : Purpose} (hpurpose : purpose ≠ .name) {links : Nat}
    {here q : Place} {names : List Bytes} (h : t.walk purpose links here names = .ok (.at q)) :
    ∃ left, t.reach links here names = .ok (q, left) := by
  fun_induction t.reach links here names with
  | case1 links here =>
    rw [walk_nil] at h
    cases h
    exact ⟨links, rfl⟩
  | case2 links here m rest e hnext =>
    rcases walk_cons_cases h with ⟨-, hfree, -⟩ | ⟨hname, -⟩ | ⟨r, hr, -⟩
    · cases hfree
    · exact absurd hname hpurpose
    · rw [hnext] at hr
      cases hr
  | case3 links here m rest left next more hnext ih =>
    rcases walk_cons_cases h with ⟨-, hfree, -⟩ | ⟨hname, -⟩ | ⟨r, hr, hrest⟩
    · cases hfree
    · exact absurd hname hpurpose
    · rw [hnext] at hr
      cases hr
      exact ih hrest

/-- A walk to what the last name leads to ends where the names lead. -/
theorem walk_target_at_iff (t : Tree) (links : Nat) (here : Place) (names : List Bytes)
    (q : Place) :
    t.walk .target links here names = .ok (.at q) ↔
      ∃ left, t.reach links here names = .ok (q, left) := by
  constructor
  · exact reach_of_walk_at (by decide)
  · rintro ⟨left, h⟩
    fun_induction t.reach links here names with
    | case1 links here =>
      cases h
      rw [walk_nil]
    | case2 links here m rest e hnext => cases h
    | case3 links here m rest left next more hnext ih => rw [walk_target_of_onward hnext, ih h]

/-- A name that something has which is no link leads there. -/
theorem onward_of_entry {t : Tree} {here : Place} {n : Bytes} {e : Entry}
    (hdir : t.isDir here = true) (hn : Proper n) (hentry : t.entry? (here ++ [n]) = some e)
    (hnode : ∀ path, e.node ≠ .link path) (links : Nat) :
    t.onward links here n = .ok (links, here ++ [n], []) := by
  obtain ⟨place, node, mode, owner⟩ := e
  rw [onward_proper hdir hn, hentry]
  cases node with
  | file content => rfl
  | dir => rfl
  | link path => exact absurd rfl (hnode path)

/-! ## Trees that grow -/

/-- All that a tree holds is in another tree, too. -/
def Within (t t' : Tree) : Prop := ∀ p e, t.entry? p = some e → t'.entry? p = some e

theorem isDir_iff {t : Tree} {p : Place} :
    t.isDir p = true ↔ ∃ e, t.entry? p = some e ∧ e.node = .dir := by
  unfold isDir
  cases t.entry? p with
  | none => simp
  | some e => simp

theorem Within.isDir {t t' : Tree} (h : t.Within t') {p : Place} (hdir : t.isDir p = true) :
    t'.isDir p = true := by
  obtain ⟨e, he, hnode⟩ := isDir_iff.1 hdir
  exact isDir_iff.2 ⟨e, h p e he, hnode⟩

/-- Names lead to the same place when there is more. -/
theorem reach_within {t t' : Tree} (h : t.Within t') {links : Nat} {here : Place}
    {names : List Bytes} {r : Place × Nat} (hreach : t.reach links here names = .ok r) :
    t'.reach links here names = .ok r := by
  fun_induction t.reach links here names with
  | case1 links here =>
    rw [reach]
    exact hreach
  | case2 links here n rest e hnext => cases hreach
  | case3 links here n rest left next more hnext ih =>
    have hdir := (onward_cases hnext).1
    have hnext' := onward_eq_ok hnext ((h.isDir hdir).trans hdir.symm) fun _ e he => h _ e he
    rw [reach_cons, hnext']
    exact ih hreach

/-- Names that led to a free place lead there when there is something that is no link. -/
theorem reach_of_absent {t t' : Tree} (h : t.Within t') {purpose : Purpose} {links : Nat}
    {here d : Place} {names : List Bytes} {n : Bytes} {e : Entry}
    (hwalk : t.walk purpose links here names = .ok (.absent d n))
    (he : t'.entry? (d ++ [n]) = some e) (hnode : ∀ path, e.node ≠ .link path) :
    ∃ left, t'.reach links here names = .ok (d ++ [n], left) := by
  have hlast : ∀ links, t.isDir d = true → Proper n →
      t'.reach links d [n] = .ok (d ++ [n], links) := by
    intro links hd hn
    rw [reach_cons, onward_of_entry (h.isDir hd) hn he hnode]
    show t'.reach links (d ++ [n]) [] = _
    rw [reach]
  fun_induction t.reach links here names with
  | case1 links here =>
    rw [walk_nil] at hwalk
    cases hwalk
  | case2 links here m rest e hnext =>
    rcases walk_cons_cases hwalk with ⟨rfl, hfree, hd, hn, -⟩ | ⟨-, -, hat, -⟩ | ⟨r, hr, -⟩
    · cases hfree
      exact ⟨links, hlast links hd hn⟩
    · cases hat
    · rw [hnext] at hr
      cases hr
  | case3 links here m rest left next more hnext ih =>
    rcases walk_cons_cases hwalk with ⟨rfl, hfree, hd, hn, -⟩ | ⟨-, -, hat, -⟩ | ⟨r, hr, hrest⟩
    · cases hfree
      exact ⟨links, hlast links hd hn⟩
    · cases hat
    · rw [hnext] at hr
      cases hr
      obtain ⟨left', hreach⟩ := ih hrest
      have hd := (onward_cases hnext).1
      have hnext' := onward_eq_ok hnext ((h.isDir hd).trans hd.symm) fun _ e he => h _ e he
      rw [reach_cons, hnext']
      exact ⟨left', hreach⟩

/-! ## Trees that lose a file -/

/-- From what is no directory no name leads on. -/
theorem reach_of_not_dir {t : Tree} {links : Nat} {here : Place} {names : List Bytes}
    {r : Place × Nat} (hdir : t.isDir here = false) (h : t.reach links here names = .ok r) :
    r.1 = here := by
  cases names with
  | nil =>
    rw [reach] at h
    rw [← Except.ok.inj h]
  | cons n rest =>
    rw [reach_cons] at h
    cases hnext : t.onward links here n with
    | error e =>
      rw [hnext] at h
      cases h
    | ok next =>
      have hthere := (onward_cases hnext).1
      rw [hdir] at hthere
      cases hthere

/-- Names that do not end at a file lead to the same place without it. -/
theorem reach_erase {t : Tree} {place : Place} {e : Entry} {content : Bytes}
    (hfile : t.entry? place = some e) (hnode : e.node = .file content) {links : Nat} {here : Place}
    {names : List Bytes} {r : Place × Nat} (h : t.reach links here names = .ok r)
    (hne : r.1 ≠ place) : (t.erase place).reach links here names = .ok r := by
  have hplace := isDir_eq_false hfile (by simp [hnode])
  fun_induction t.reach links here names with
  | case1 links here =>
    rw [reach]
    exact h
  | case2 links here n rest e hnext => cases h
  | case3 links here n rest left next more hnext ih =>
    have hnext' : (t.erase place).onward links here n = .ok (left, next, more) := by
      refine onward_eq_ok hnext (isDir_erase hplace here) ?_
      intro hn e' he'
      rw [entry?_erase_ne ?_, he']
      -- the name is not the file's, since no name leads on from a file
      intro heq
      have hthere := onward_of_entry (onward_cases hnext).1 hn (heq ▸ hfile) (by simp [hnode]) links
      rw [hnext] at hthere
      cases hthere
      rw [heq] at h
      exact hne (reach_of_not_dir hplace h)
    rw [reach_cons, hnext']
    exact ih h

end Files.Tree

end SelfTrace
