import SelfTrace.Proofs.Directories

/-!
# Directories above a path

To make a directory is to make those above it first, as far as they are missing. What was made stays
if something fails on the way; then the path leads to no directory, and to try again changes
nothing.

* `directory?_above` — a path that can be followed has a directory above it;
* `makeAllDirs_ok`, `makeAllDirs_error` — what there is when the directories were made, and when
  they could not be made;
* `makeAllDirs_extended` — either way there are directories besides, and nothing else.
-/

namespace SelfTrace

namespace Path

/-! ## Names of the directory above -/

/-- A name that leads nowhere else. -/
def isIdle (n : Bytes) : Bool := n.isEmpty || n == dot

theorem settled_append_idle {names rest : List Bytes} (h : ∀ n ∈ rest, isIdle n = true) :
    settled (names ++ rest) = settled names := by
  rw [settled, settled, List.reverse_append, List.dropWhile_append_of_pos]
  intro n hn
  exact h n (List.mem_reverse.1 hn)

theorem isPrefix_settled (names : List Bytes) : settled names <+: names := by
  rw [settled, ← List.reverse_suffix, List.reverse_reverse]
  exact List.dropWhile_suffix _

/-- Settled names do not end with one that leads nowhere else. -/
theorem settled_ne_empty (names : List Bytes) : settled names ≠ [[]] := by
  intro h
  rw [settled, List.reverse_eq_iff] at h
  have hhead := List.head?_dropWhile_not (fun n : Bytes => n.isEmpty || n == dot) names.reverse
  rw [h] at hhead
  cases hhead

/-- The names of the directory that a path lies in. -/
def namesAbove (p : Path) : List Bytes := settled (settled (rawNames p)).dropLast

/-- A path has the names of the directory above, and more. -/
theorem rawNames_eq_above (p : Path) : ∃ n rest, rawNames p = namesAbove p ++ n :: rest := by
  obtain ⟨tail, htail⟩ : namesAbove p <+: rawNames p :=
    (isPrefix_settled _).trans ((List.dropLast_prefix _).trans (isPrefix_settled _))
  cases tail with
  | cons n rest => exact ⟨n, rest, htail.symm⟩
  | nil =>
    -- one name at least is left out, if there are any
    rw [List.append_nil] at htail
    have hsettled := (isPrefix_settled (rawNames p)).length_le
    have habove := (isPrefix_settled (settled (rawNames p)).dropLast).length_le
    have hsome := List.length_pos_iff.2 (splitOn_ne_nil slash p)
    rw [List.length_dropLast] at habove
    have hlength := congrArg List.length htail
    rw [namesAbove, rawNames] at hlength
    rw [rawNames] at habove hsettled
    omega

theorem rawNames_intercalate {names : List Bytes} (hne : names ≠ [])
    (h : ∀ n ∈ names, slash ∉ n) : rawNames ([slash].intercalate names) = names := by
  induction names with
  | nil => exact absurd rfl hne
  | cons n names ih =>
    have hn := splitOn_of_not_mem (h n List.mem_cons_self)
    cases names with
    | nil => simpa [rawNames] using hn
    | cons m names =>
      have hrest := ih (by simp) fun n' hn' => h n' (List.mem_cons_of_mem _ hn')
      rw [rawNames] at hrest ⊢
      rw [List.intercalate_cons_cons, List.append_assoc, List.singleton_append, splitOn_append, hn,
        hrest]
      rfl

theorem intercalate_append {names more : List Bytes} (hnames : names ≠ []) (hmore : more ≠ []) :
    [slash].intercalate (names ++ more) =
      [slash].intercalate names ++ slash :: [slash].intercalate more := by
  induction names with
  | nil => exact absurd rfl hnames
  | cons n names ih =>
    cases names with
    | nil =>
      obtain ⟨m, more, rfl⟩ := List.exists_cons_of_ne_nil hmore
      simp
    | cons n' names =>
      have hrest := ih (by simp)
      rw [List.cons_append, List.cons_append, List.intercalate_cons_cons, ← List.cons_append, hrest,
        List.intercalate_cons_cons, List.append_assoc, List.append_assoc, List.append_assoc]

/-- Where there are names above, the path of these is the front of the path. -/
theorem above_eq {p : Path} (h : namesAbove p ≠ []) :
    rawNames (above p) = namesAbove p ∧ above p ≠ [] ∧ ∃ tail, p = above p ++ slash :: tail := by
  obtain ⟨n, rest, hraw⟩ := rawNames_eq_above p
  have habove : above p = [slash].intercalate (namesAbove p) := by
    have hkept : settled (settled (rawNames p)).dropLast ≠ [] := h
    simp [above, namesAbove, hkept]
  have hnames : rawNames (above p) = namesAbove p := by
    rw [habove]
    refine rawNames_intercalate h fun m hm => ?_
    exact not_mem_of_mem_splitOn (hraw ▸ List.mem_append_left _ hm : m ∈ rawNames p)
  refine ⟨hnames, ?_, [slash].intercalate (n :: rest), ?_⟩
  · intro hempty
    rw [hempty] at hnames
    exact settled_ne_empty _ hnames.symm
  · rw [habove, ← intercalate_append h (by simp), ← hraw, rawNames, intercalate_splitOn]

/-- Without names above, a path lies in the root or where relative paths start. -/
theorem above_of_nil {p : Path} (h : namesAbove p = []) :
    above p = if isAbsolute p then [slash] else [] := by
  have hkept : settled (settled (rawNames p)).dropLast = [] := h
  simp [above, hkept]

theorem isAbsolute_append {p : Path} (h : p ≠ []) (rest : Bytes) :
    isAbsolute (p ++ rest) = isAbsolute p := by
  obtain ⟨b, p, rfl⟩ := List.exists_cons_of_ne_nil h
  rfl

/-- Slashes at the end of a path do not change where it lies. -/
theorem above_append_slashes {p : Path} (h : p ≠ []) {slashes : Bytes}
    (hslashes : ∀ b ∈ slashes, b = slash) : above (p ++ slashes) = above p := by
  have hsettled : settled (rawNames (p ++ slashes)) = settled (rawNames p) := by
    rw [Files.Tree.rawNames_append_slashes p hslashes]
    refine settled_append_idle fun n hn => ?_
    obtain ⟨b, -, rfl⟩ := List.mem_map.1 hn
    rfl
  rw [above, above, hsettled, isAbsolute_append h]

end Path

namespace Files.Tree

variable {t t' : Tree} {p : Path} {e : Failure}

/-! ## The directory above -/

theorem Usable.front {front tail : Path} (h : Usable (front ++ tail)) : Usable front where
  noNul := by
    have hnul := h.noNul
    rw [List.contains_eq_mem, decide_eq_false_iff_not, List.mem_append] at hnul
    rw [List.contains_eq_mem, decide_eq_false_iff_not]
    exact fun hmem => hnul (.inl hmem)
  short := by
    have hshort := h.short
    rw [List.length_append] at hshort
    omega

theorem Usable.above (h : Usable p) : Usable (Path.above p) := by
  by_cases hnames : Path.namesAbove p = []
  · rw [Path.above_of_nil hnames]
    split
    · exact ⟨by decide, by decide⟩
    · exact ⟨rfl, Nat.zero_le _⟩
  · obtain ⟨-, -, tail, hp⟩ := Path.above_eq hnames
    rw [hp] at h
    exact h.front

theorem directory?_root (t : Tree) : t.directory? [Path.slash] = some [] := by
  have hdir : t.isDir [] = true := rfl
  refine directory?_eq_some_iff.2 ⟨⟨by decide, by decide⟩, hdir, (reach_rawNames_iff hdir).1 ?_⟩
  exact ⟨maxLinks, reach_empty hdir maxLinks [Path.slash, Path.slash]⟩

/-- A path that can be followed has a directory above it. -/
theorem directory?_above (husable : Usable p) {purpose : Purpose} {target : Target}
    (h : t.walk purpose maxLinks (t.startOf p) (Path.rawNames p) = .ok target) :
    ∃ q, t.directory? (Path.above p) = some q := by
  obtain ⟨n, rest, hraw⟩ := Path.rawNames_eq_above p
  rw [hraw] at h
  obtain ⟨q, left, hreach, hdir⟩ := reach_of_walk h
  by_cases hnames : Path.namesAbove p = []
  · rw [Path.above_of_nil hnames]
    split
    · exact ⟨[], t.directory?_root⟩
    · next hrelative =>
      -- the way has not begun, and it begins in the working directory
      have hstart : t.startOf p = t.workingDir := if_neg hrelative
      rw [hnames, reach, hstart] at hreach
      cases hreach
      exact ⟨_, if_pos hdir⟩
  · obtain ⟨habove, hne, tail, hp⟩ := Path.above_eq hnames
    have hstart : t.startOf (Path.above p) = t.startOf p := by
      have habsolute := Path.isAbsolute_append hne (Path.slash :: tail)
      rw [← hp] at habsolute
      rw [startOf, startOf, habsolute]
    rw [← habove, ← hstart] at hreach
    exact ⟨q, directory?_eq_some_iff.2
      ⟨husable.above, hdir, (reach_rawNames_iff hdir).1 ⟨left, hreach⟩⟩⟩

theorem directory?_above_of_directory? {q : Place} (h : t.directory? p = some q) :
    ∃ q', t.directory? (Path.above p) = some q' := by
  obtain ⟨husable, hdir, hreach⟩ := directory?_eq_some_iff.1 h
  rw [← reach_rawNames_iff hdir, ← walk_target_at_iff] at hreach
  exact directory?_above husable hreach

theorem directory?_of_none_above (h : t.directory? (Path.above p) = none) :
    t.directory? p = none := by
  refine Option.eq_none_iff_forall_not_mem.2 fun q hq => ?_
  obtain ⟨q', hq'⟩ := directory?_above_of_directory? hq
  rw [hq'] at h
  cases h

theorem barePath_ne_nil (hp : p ≠ []) : barePath p ≠ [] := by
  rw [barePath]
  split
  · exact hp
  · next hbare => simpa using hbare

theorem above_barePath (hp : p ≠ []) : Path.above p = Path.above (barePath p) := by
  obtain ⟨slashes, hslashes, hall⟩ := barePath_append p
  rw [← Path.above_append_slashes (barePath_ne_nil hp) hall, ← hslashes]

/-- A path to make a directory at that can be followed has a directory above it. -/
theorem directory?_above_of_resolve {purpose : Purpose} {target : Target}
    (h : t.resolve purpose (barePath p) = .ok target) :
    ∃ q, t.directory? (Path.above p) = some q := by
  obtain ⟨hne, husable⟩ := usable_of_resolve h
  rw [resolve_eq hne husable] at h
  have hp : p ≠ [] := by
    rintro rfl
    exact hne rfl
  rw [above_barePath hp]
  exact directory?_above husable h

/-! ## Directories that are there -/

/-- A path that leads to a directory leads to its place. -/
theorem leadsToDir_iff (hp : p ≠ []) : t.leadsToDir p = true ↔ ∃ q, t.directory? p = some q := by
  rw [leadsToDir, directory?, if_neg (by simpa using hp)]
  cases t.find true p with
  | error e => simp
  | ok e =>
    dsimp only
    by_cases hnode : e.node = .dir
    · simp [hnode]
    · simp [hnode]

/-- A directory that is there is not made again. -/
theorem makeDir_of_directory? (hp : p ≠ []) {q : Place} (h : t.directory? p = some q) :
    t.makeDir p = .error .alreadyExists := by
  obtain ⟨husable, hdir, hreach⟩ := directory?_eq_some_iff.1 h
  obtain ⟨left, hreach⟩ := (reach_rawNames_iff hdir).2 hreach
  obtain ⟨slashes, hslashes, hall⟩ := barePath_append p
  have hne := barePath_ne_nil hp
  have hstart : t.startOf p = t.startOf (barePath p) := by
    have habsolute := Path.isAbsolute_append hne slashes
    rw [← hslashes] at habsolute
    rw [startOf, startOf, habsolute]
  rw [hslashes] at husable
  rw [hstart, hslashes, rawNames_append_slashes _ hall, reach_append, ← hslashes] at hreach
  cases hbare : t.reach maxLinks (t.startOf (barePath p)) (Path.rawNames (barePath p)) with
  | error e =>
    rw [hbare] at hreach
    cases hreach
  | ok r =>
    obtain ⟨q', hwalk⟩ := walk_name_of_reach hbare
    rw [← resolve_eq hne husable.front] at hwalk
    have hresolve : t.resolve .name (if (Path.bare p).isEmpty then p else Path.bare p) =
        .ok (.at q') := hwalk
    rw [makeDir, hresolve]

theorem ensureDir_of_directory? (hp : p ≠ []) {q : Place} (h : t.directory? p = some q) :
    t.ensureDir p = (t, .ok ()) := by
  rw [ensureDir, makeDir_of_directory? hp h]
  dsimp only
  rw [if_pos ((leadsToDir_iff hp).2 ⟨q, h⟩)]

theorem lacksAbove_of_directory? (hp : p ≠ []) {q : Place} (h : t.directory? p = some q) :
    t.lacksAbove p = false := by
  rw [lacksAbove, makeDir_of_directory? hp h]
  rfl

theorem directory?_of_lacksAbove (hp : p ≠ []) (h : t.lacksAbove p = true) :
    t.directory? p = none := by
  refine Option.eq_none_iff_forall_not_mem.2 fun q hq => ?_
  rw [lacksAbove_of_directory? hp hq] at h
  cases h

/-- Nothing is made where there is a directory. -/
theorem makeDirs_of_directory? {q : Place} (h : t.directory? p = some q) (fuel : Nat) :
    t.makeDirs p (fuel + 1) = (t, .ok ()) := by
  rw [makeDirs]
  by_cases hp : p = []
  · rw [if_pos (by simpa using hp)]
  · rw [if_neg (by simpa using hp), lacksAbove_of_directory? hp h, ensureDir_of_directory? hp h]
    rfl

/-! ## Attempts to make directories -/

/-- What comes of an attempt to make one directory. -/
theorem ensureDir_cases {answer : Except Failure Unit} (h : t.ensureDir p = (t', answer)) :
    t.makeDir p = .ok t' ∧ answer = .ok () ∨
      t' = t ∧ t.leadsToDir p = true ∧ answer = .ok () ∨
      t' = t ∧ t.leadsToDir p = false ∧ ∃ e, answer = .error e := by
  rw [ensureDir] at h
  cases hmake : t.makeDir p with
  | ok made =>
    rw [hmake] at h
    cases h
    exact .inl ⟨rfl, rfl⟩
  | error e =>
    rw [hmake] at h
    dsimp only at h
    split at h
    · next hleads =>
      cases h
      exact .inr (.inl ⟨rfl, hleads, rfl⟩)
    · next hleads =>
      cases h
      exact .inr (.inr ⟨rfl, by simpa using hleads, e, rfl⟩)

theorem ensureDir_extended {answer : Except Failure Unit} (h : t.ensureDir p = (t', answer)) :
    t.Extended t' := by
  rcases ensureDir_cases h with ⟨hmake, -⟩ | ⟨rfl, -⟩ | ⟨rfl, -⟩
  · exact makeDir_extended hmake
  · exact .refl t'
  · exact .refl t'

/-- A directory that was made is there. -/
theorem ensureDir_ok (hp : p ≠ []) (husable : Usable p) (h : t.ensureDir p = (t', .ok ())) :
    ∃ q, t'.directory? p = some q := by
  rcases ensureDir_cases h with ⟨hmake, -⟩ | ⟨rfl, hleads, -⟩ | ⟨-, -, e, herror⟩
  · exact makeDir_leads hmake husable
  · exact (leadsToDir_iff hp).1 hleads
  · cases herror

/-- A directory that could not be made is not there, and nothing was. -/
theorem ensureDir_error (hp : p ≠ []) (h : t.ensureDir p = (t', .error e)) :
    t' = t ∧ t.directory? p = none := by
  rcases ensureDir_cases h with ⟨-, hok⟩ | ⟨-, -, hok⟩ | ⟨hsame, hleads, -⟩
  · cases hok
  · cases hok
  · refine ⟨hsame, Option.eq_none_iff_forall_not_mem.2 fun q hq => ?_⟩
    rw [(leadsToDir_iff hp).2 ⟨q, hq⟩] at hleads
    cases hleads

/-- What comes of an attempt to make directories: none is asked for, or nothing is missing above the
path, or what is above it is made first. -/
theorem makeDirs_cases {fuel : Nat} {answer : Except Failure Unit}
    (h : t.makeDirs p (fuel + 1) = (t', answer)) :
    p = [] ∧ t' = t ∧ answer = .ok () ∨
      p ≠ [] ∧ t.lacksAbove p = false ∧ t.ensureDir p = (t', answer) ∨
      p ≠ [] ∧ t.lacksAbove p = true ∧
        ((∃ e, t.makeDirs (Path.above p) fuel = (t', .error e) ∧ answer = .error e) ∨
          ∃ made, t.makeDirs (Path.above p) fuel = (made, .ok ()) ∧
            made.ensureDir p = (t', answer)) := by
  rw [makeDirs] at h
  split at h
  · next hempty =>
    cases h
    exact .inl ⟨by simpa using hempty, rfl, rfl⟩
  · next hempty =>
    have hp : p ≠ [] := by simpa using hempty
    split at h
    · next hlacks =>
      refine .inr (.inr ⟨hp, hlacks, ?_⟩)
      split at h
      · next habove =>
        cases h
        exact .inl ⟨_, habove, rfl⟩
      · next habove => exact .inr ⟨_, habove, h⟩
    · next hlacks => exact .inr (.inl ⟨hp, by simpa using hlacks, h⟩)

/-- Directories and nothing else are made, whatever comes of it. -/
theorem makeDirs_extended {fuel : Nat} :
    ∀ {t t' : Tree} {p : Path} {answer : Except Failure Unit},
      t.makeDirs p fuel = (t', answer) → t.Extended t' := by
  induction fuel with
  | zero =>
    intro t t' p answer h
    cases h
    exact .refl t
  | succ fuel ih =>
    intro t t' p answer h
    rcases makeDirs_cases h with ⟨-, rfl, -⟩ | ⟨-, -, hensure⟩ |
      ⟨-, -, ⟨e, habove, -⟩ | ⟨made, habove, hensure⟩⟩
    · exact .refl t'
    · exact ensureDir_extended hensure
    · exact ih habove
    · exact (ih habove).trans (ensureDir_extended hensure)

/-- When directories were made the path leads to one, unless it asks for none. -/
theorem makeDirs_ok {fuel : Nat} (h : t.makeDirs p fuel = (t', .ok ())) (husable : Usable p) :
    p = [] ∧ t' = t ∨ ∃ q, t'.directory? p = some q := by
  cases fuel with
  | zero => cases h
  | succ fuel =>
    rcases makeDirs_cases h with ⟨hnil, hsame, -⟩ | ⟨hp, -, hensure⟩ |
      ⟨hp, -, ⟨e, -, herror⟩ | ⟨made, -, hensure⟩⟩
    · exact .inl ⟨hnil, hsame⟩
    · exact .inr (ensureDir_ok hp husable hensure)
    · cases herror
    · exact .inr (ensureDir_ok hp husable hensure)

/-- A path above which something is missing can be handed over. -/
theorem usable_above_of_lacksAbove (hp : p ≠ []) (h : t.lacksAbove p = true) :
    Usable (Path.above p) := by
  have hresolve : t.resolve .name (barePath p) = .error .noEntry := by
    have hbare : (if (Path.bare p).isEmpty then p else Path.bare p) = barePath p := rfl
    rw [lacksAbove, makeDir, hbare] at h
    cases hresolve : t.resolve .name (barePath p) with
    | error e =>
      rw [hresolve] at h
      rw [show e = .noEntry from eq_of_beq h]
    | ok target =>
      rw [hresolve] at h
      cases target <;> cases h
  rw [above_barePath hp]
  refine Usable.above ?_
  rw [resolve] at hresolve
  split at hresolve
  · cases hresolve
  · next hnul =>
    rw [if_neg (by simpa using barePath_ne_nil hp)] at hresolve
    split at hresolve
    · cases hresolve
    · next hlong => exact ⟨by simpa using hnul, Nat.le_of_not_lt hlong⟩

/-- An attempt to make one directory fails again where there is none above it. -/
theorem ensureDir_of_none_above (hp : p ≠ []) (h : t.directory? (Path.above p) = none) :
    ∃ e, t.ensureDir p = (t, .error e) := by
  rcases hensure : t.ensureDir p with ⟨made, answer⟩
  rcases ensureDir_cases hensure with ⟨hmake, -⟩ | ⟨-, hleads, -⟩ | ⟨rfl, -, e, rfl⟩
  · obtain ⟨d, n, hresolve, -⟩ := makeDir_cases hmake
    obtain ⟨q, hq⟩ := directory?_above_of_resolve hresolve
    rw [hq] at h
    cases h
  · obtain ⟨q, hq⟩ := (leadsToDir_iff hp).1 hleads
    rw [directory?_of_none_above h] at hq
    cases hq
  · exact ⟨e, rfl⟩

/-- Where what is above a path is there, the path itself is what remains to be made. -/
theorem makeDirs_of_above (hp : p ≠ []) {fuel : Nat}
    (h : t.makeDirs (Path.above p) fuel = (t, .ok ())) :
    t.makeDirs p (fuel + 1) = t.ensureDir p := by
  rw [makeDirs, if_neg (by simpa using hp), h]
  split
  · rfl
  · rfl

/-- Where nothing above a path can be made, the path itself cannot be made. -/
theorem makeDirs_of_none_above (hp : p ≠ []) {fuel : Nat}
    (hnone : t.directory? (Path.above p) = none)
    (h : t.makeDirs (Path.above p) fuel = (t, .error e)) :
    ∃ e', t.makeDirs p (fuel + 1) = (t, .error e') := by
  rw [makeDirs, if_neg (by simpa using hp), h]
  split
  · exact ⟨e, rfl⟩
  · exact ensureDir_of_none_above hp hnone

/-- Where directories could not be made there is none. To try again fails and changes nothing. -/
theorem makeDirs_error {fuel : Nat} :
    ∀ {t t' : Tree} {p : Path} {e : Failure}, t.makeDirs p (fuel + 1) = (t', .error e) →
      t'.directory? p = none ∧ ∃ e', t'.makeDirs p (fuel + 1) = (t', .error e') := by
  induction fuel with
  | zero =>
    intro t t' p e h
    rcases makeDirs_cases h with ⟨-, -, hok⟩ | ⟨hp, -, hensure⟩ |
      ⟨hp, hlacks, ⟨e', habove, -⟩ | ⟨made, habove, -⟩⟩
    · cases hok
    · obtain ⟨rfl, hnone⟩ := ensureDir_error hp hensure
      exact ⟨hnone, e, h⟩
    · cases habove
      exact ⟨directory?_of_lacksAbove hp hlacks, e, h⟩
    · cases habove
  | succ fuel ih =>
    intro t t' p e h
    rcases makeDirs_cases h with ⟨-, -, hok⟩ | ⟨hp, -, hensure⟩ |
      ⟨hp, hlacks, ⟨e', habove, -⟩ | ⟨made, habove, hensure⟩⟩
    · cases hok
    · obtain ⟨rfl, hnone⟩ := ensureDir_error hp hensure
      exact ⟨hnone, e, h⟩
    · -- without a directory above there is none at the path, now or at the next attempt
      obtain ⟨hnone, e'', hstuck⟩ := ih habove
      exact ⟨directory?_of_none_above hnone, makeDirs_of_none_above hp hnone hstuck⟩
    · -- what is above is there at the next attempt, and the path itself fails again
      obtain ⟨rfl, hnone⟩ := ensureDir_error hp hensure
      refine ⟨hnone, e, ?_⟩
      rw [makeDirs_of_above hp, hensure]
      rcases makeDirs_ok habove (usable_above_of_lacksAbove hp hlacks) with ⟨hnil, -⟩ | ⟨q, hq⟩
      · rw [hnil, makeDirs]
        rfl
      · exact makeDirs_of_directory? hq fuel

/-! ## All directories -/

theorem makeAllDirs_extended {answer : Except Failure Unit} (h : t.makeAllDirs p = (t', answer)) :
    t.Extended t' :=
  makeDirs_extended h

/-- Directories that were made are there. The empty path asks for none. -/
theorem makeAllDirs_ok (h : t.makeAllDirs p = (t', .ok ())) (hp : Usable p) :
    t' = t ∨ ∃ q, t'.directory? p = some q :=
  (makeDirs_ok h hp).imp_left And.right

/-- Where directories could not be made there is none, before as after, and none can be made. -/
theorem makeAllDirs_error (h : t.makeAllDirs p = (t', .error e)) :
    t.directory? p = none ∧ t'.directory? p = none ∧
      ∃ e', t'.makeAllDirs p = (t', .error e') := by
  obtain ⟨hnone, hstuck⟩ := makeDirs_error h
  refine ⟨Option.eq_none_iff_forall_not_mem.2 fun q hq => ?_, hnone, hstuck⟩
  rw [makeAllDirs, makeDirs_of_directory? hq] at h
  cases h

end Files.Tree

end SelfTrace
