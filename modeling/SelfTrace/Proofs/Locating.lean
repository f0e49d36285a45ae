import SelfTrace.Proofs.MarkerNames
import SelfTrace.Proofs.Places
import SelfTrace.Tool.Locator

/-!
# Where the tool is found

The tool is looked for in one of three ways, and none of them falls back on another: at a given
location, at the location that its name is, or along a search path.

* `Executable` — a regular file that someone may execute and that may be looked at;
* `Entries` — the entries of a search path, in order;
* `Locator.Ends` — how a search ends, said apart from how it goes;
* `locate_ends` — every search ends so, and what is found can be executed.
-/

namespace SelfTrace

variable {σ : Type}

/-! ## Files that can be executed -/

/-- A path leads, through links if need be, to a regular file that its owner, its group or the
others may execute, and the system does not refuse to look at it. -/
def Executable (g : Files.Guard) (files : Files.Tree) (p : Path) : Prop :=
  g.look files p = none ∧ ∃ e content, files.find true p = .ok e ∧ e.node = .file content ∧
    (e.mode.testBit 0 = true ∨ e.mode.testBit 3 = true ∨ e.mode.testBit 6 = true)

/-- The bits for execution are these three. -/
theorem testBit_executeBits_iff (i : Nat) :
    Nat.testBit 0o111 i = true ↔ i = 0 ∨ i = 3 ∨ i = 6 := by
  have hsmall : ∀ j < 7, Nat.testBit 0o111 j = true → j = 0 ∨ j = 3 ∨ j = 6 := by decide
  constructor
  · intro h
    rcases Nat.lt_or_ge i 7 with hi | hi
    · exact hsmall i hi h
    · have hzero : Nat.testBit 0o111 i = false :=
        Nat.testBit_lt_two_pow (Nat.lt_of_lt_of_le (by decide : 0o111 < 2 ^ 7)
          (Nat.pow_le_pow_right (by decide) hi))
      rw [hzero] at h
      cases h
  · rintro (rfl | rfl | rfl)
    all_goals decide

/-- A mode has a bit for execution exactly if one of the three is set. -/
theorem and_executeBits_ne_zero_iff (mode : Nat) : mode &&& 0o111 ≠ 0 ↔
    mode.testBit 0 = true ∨ mode.testBit 3 = true ∨ mode.testBit 6 = true := by
  have hand : mode &&& 0o111 ≠ 0 ↔
      ∃ i, mode.testBit i = true ∧ Nat.testBit 0o111 i = true := by
    constructor
    · intro h
      rcases Nat.exists_testBit_of_ne_zero h with ⟨i, hi⟩
      rw [Nat.testBit_and, Bool.and_eq_true] at hi
      exact ⟨i, hi⟩
    · rintro ⟨i, hmode, hbit⟩ hzero
      have hi : (mode &&& 0o111).testBit i = true := by
        rw [Nat.testBit_and, hmode, hbit, Bool.and_self]
      rw [hzero, Nat.zero_testBit] at hi
      cases hi
  rw [hand]
  simp only [testBit_executeBits_iff]
  constructor
  · rintro ⟨i, hmode, rfl | rfl | rfl⟩
    · exact .inl hmode
    · exact .inr (.inl hmode)
    · exact .inr (.inr hmode)
  · rintro (h | h | h)
    · exact ⟨0, h, .inl rfl⟩
    · exact ⟨3, h, .inr (.inl rfl)⟩
    · exact ⟨6, h, .inr (.inr rfl)⟩

theorem isExecutable_iff (g : Files.Guard) (files : Files.Tree) (p : Path) :
    g.isExecutable files p = true ↔ Executable g files p := by
  unfold Files.Guard.isExecutable Files.Guard.find Executable
  cases hlook : g.look files p with
  | some e => simp
  | none =>
  cases hfind : files.find true p with
  | error e => simp
  | ok e =>
    rcases e with ⟨place, node, mode, owner⟩
    cases node with
    | file content => simpa using and_executeBits_ne_zero_iff mode
    | dir => simp
    | link target => simp

/-! ## Entries of a search path -/

/-- A search path is these entries with colons between them; a search path has at least one
entry. -/
structure Entries (searchPath : Bytes) (entries : List Path) : Prop where
  ne_nil : entries ≠ []
  noColon : ∀ dir ∈ entries, (0x3A : UInt8) ∉ dir
  joined : [0x3A].intercalate entries = searchPath

/-- Every search path has its entries, and no others. -/
theorem entries_iff {searchPath : Bytes} {entries : List Path} :
    Entries searchPath entries ↔ entries = Path.splitOn 0x3A searchPath := by
  constructor
  · -- by induction on the entries: a colon ends each of them but the last
    rintro ⟨hne, hcolon, rfl⟩
    induction entries with
    | nil => exact absurd rfl hne
    | cons dir entries ih =>
      have hdir := Path.splitOn_of_not_mem (hcolon dir List.mem_cons_self)
      cases entries with
      | nil => simpa [List.intercalate] using hdir.symm
      | cons next entries =>
        have hrest := ih (by simp) fun d hd => hcolon d (List.mem_cons_of_mem dir hd)
        have hjoined : [(0x3A : UInt8)].intercalate (dir :: next :: entries) =
            dir ++ 0x3A :: [(0x3A : UInt8)].intercalate (next :: entries) := by
          simp [List.intercalate]
        rw [hjoined, Path.splitOn_append, hdir, ← hrest, List.singleton_append]
  · rintro rfl
    exact ⟨Path.splitOn_ne_nil _ _, fun dir h => Path.not_mem_of_mem_splitOn h,
      Path.intercalate_splitOn _ _⟩

/-! ## How a search ends -/

namespace Locator

/-- No location of the tool is given, and the name is not blank. -/
structure Named (l : Locator) : Prop where
  notGiven : l.explicit = none
  notBlank : ∃ c ∈ l.binary.toList, Text.isBlank c = false

/-- How a search ends: which way it takes is told by the locator alone, and no way leads to another
one. -/
inductive Ends (g : Files.Guard) (l : Locator) (envPath : Option Bytes) (files : Files.Tree) :
    Except LocateError Path → Prop where
  | explicit {path : Path} (hgiven : l.explicit = some path) (h : Executable g files path) :
      Ends g l envPath files (.ok path)
  | notExecutable {path : Path} (hgiven : l.explicit = some path) (h : ¬Executable g files path) :
      Ends g l envPath files (.error (.notExecutable path))
  | blank (hgiven : l.explicit = none) (h : ∀ c ∈ l.binary.toList, Text.isBlank c = true) :
      Ends g l envPath files (.error (.notFound l.binary))
  | location (hgiven : l.explicit = none) (hslash : '/' ∈ l.binary.toList)
      (h : Executable g files (Text.octets l.binary)) :
      Ends g l envPath files (.ok (Text.octets l.binary))
  | noLocation (hgiven : l.explicit = none) (hslash : '/' ∈ l.binary.toList)
      (h : ¬Executable g files (Text.octets l.binary)) :
      Ends g l envPath files (.error (.notFound l.binary))
  | found {searchPath : Bytes} {before after : List Path} {dir : Path} (hnamed : l.Named)
      (hslash : '/' ∉ l.binary.toList) (hpath : l.searchPath.or envPath = some searchPath)
      (hentries : Entries searchPath (before ++ dir :: after)) (hdir : dir ≠ [])
      (h : Executable g files (Path.join dir (Text.octets l.binary)))
      (hbefore : ∀ d ∈ before, d ≠ [] → ¬Executable g files (Path.join d (Text.octets l.binary))) :
      Ends g l envPath files (.ok (Path.join dir (Text.octets l.binary)))
  | noneFound {searchPath : Bytes} {entries : List Path} (hnamed : l.Named)
      (hslash : '/' ∉ l.binary.toList) (hpath : l.searchPath.or envPath = some searchPath)
      (hentries : Entries searchPath entries)
      (h : ∀ d ∈ entries, d ≠ [] → ¬Executable g files (Path.join d (Text.octets l.binary))) :
      Ends g l envPath files (.error (.notFound l.binary))
  | noSearchPath (hnamed : l.Named) (hslash : '/' ∉ l.binary.toList)
      (h : l.searchPath.or envPath = none) : Ends g l envPath files (.error (.notFound l.binary))

/-! ## The first entry that has the tool -/

variable {g : Files.Guard} {files : Files.Tree} {binary : Bytes}

/-- An entry has the tool, and is not empty. -/
def takes (g : Files.Guard) (files : Files.Tree) (binary : Bytes) (dir : Path) : Bool :=
  !dir.isEmpty && g.isExecutable files (Path.join dir binary)

theorem takes_iff {dir : Path} :
    takes g files binary dir = true ↔ dir ≠ [] ∧ Executable g files (Path.join dir binary) := by
  rw [takes, Bool.and_eq_true, isExecutable_iff]
  simp

theorem firstIn_searched (searchPath : Bytes) :
    firstIn g files binary (Path.searched searchPath) =
      ((Path.splitOn 0x3A searchPath).find? (takes g files binary)).map (Path.join · binary) := by
  have htakes : (fun dir => decide ((!List.isEmpty dir) = true ∧
      (g.isExecutable files ∘ (Path.join · binary)) dir = true)) = takes g files binary := by
    funext dir
    cases dir with
    | nil => rfl
    | cons b dir => simp [takes]
  rw [firstIn, Path.searched, List.find?_map, List.find?_filter, htakes]

/-- What is found is below the first entry that has the tool. -/
theorem firstIn_eq_some_iff {searchPath : Bytes} {path : Path} :
    firstIn g files binary (Path.searched searchPath) = some path ↔
      ∃ before dir after, Entries searchPath (before ++ dir :: after) ∧ dir ≠ [] ∧
        Executable g files (Path.join dir binary) ∧ path = Path.join dir binary ∧
        ∀ d ∈ before, d ≠ [] → ¬Executable g files (Path.join d binary) := by
  rw [firstIn_searched, Option.map_eq_some_iff]
  constructor
  · rintro ⟨dir, hfind, rfl⟩
    rcases List.find?_eq_some_iff_append.1 hfind with ⟨htakes, before, after, hentries, hbefore⟩
    rcases takes_iff.1 htakes with ⟨hdir, hexecutable⟩
    refine ⟨before, dir, after, entries_iff.2 hentries.symm, hdir, hexecutable, rfl, ?_⟩
    intro d hd hne hd'
    have hpassed := hbefore d hd
    rw [takes_iff.2 ⟨hne, hd'⟩] at hpassed
    cases hpassed
  · rintro ⟨before, dir, after, hentries, hdir, hexecutable, rfl, hbefore⟩
    refine ⟨dir, List.find?_eq_some_iff_append.2 ?_, rfl⟩
    refine ⟨takes_iff.2 ⟨hdir, hexecutable⟩, before, after, (entries_iff.1 hentries).symm, ?_⟩
    intro d hd
    rw [Bool.not_eq_true', ← Bool.not_eq_true, takes_iff]
    rintro ⟨hne, hd'⟩
    exact hbefore d hd hne hd'

/-- Nothing is found exactly if no entry has the tool. -/
theorem firstIn_eq_none_iff {searchPath : Bytes} :
    firstIn g files binary (Path.searched searchPath) = none ↔
      ∃ entries, Entries searchPath entries ∧
        ∀ d ∈ entries, d ≠ [] → ¬Executable g files (Path.join d binary) := by
  rw [firstIn_searched, Option.map_eq_none_iff, List.find?_eq_none]
  simp only [takes_iff, not_and, entries_iff, exists_eq_left]

/-! ## The search -/

theorem contains_slash_iff {s : String} :
    (Text.octets s).contains Path.slash = true ↔ '/' ∈ s.toList := by
  rw [List.contains_iff_mem]
  exact Text.mem_octets_iff (c := '/') (by decide)

theorem blank_iff {s : String} : Text.blank s = true ↔ ∀ c ∈ s.toList, Text.isBlank c = true := by
  rw [Text.blank, Text.allBlank, List.all_eq_true]

theorem Named.blank_eq_false {l : Locator} (h : l.Named) : Text.blank l.binary = false := by
  rcases h.notBlank with ⟨c, hc, hblank⟩
  rw [← Bool.not_eq_true, blank_iff]
  intro hall
  rw [hall c hc] at hblank
  cases hblank

/-- A name with a slash in it is not blank. -/
theorem named_of_slash {l : Locator} (hgiven : l.explicit = none) (h : '/' ∈ l.binary.toList) :
    l.Named :=
  ⟨hgiven, '/', h, by decide⟩

variable {l : Locator} {envPath : Option Bytes}

theorem search_of_slash (h : '/' ∈ l.binary.toList) : l.search g envPath files =
    if g.isExecutable files (Text.octets l.binary) then some (Text.octets l.binary) else none := by
  rw [search, if_pos (contains_slash_iff.2 h)]

theorem search_of_path {searchPath : Bytes} (h : '/' ∉ l.binary.toList)
    (hpath : l.searchPath.or envPath = some searchPath) :
    l.search g envPath files =
      firstIn g files (Text.octets l.binary) (Path.searched searchPath) := by
  rw [search, if_neg (mt contains_slash_iff.1 h), hpath]
  rfl

theorem search_of_no_path (h : '/' ∉ l.binary.toList) (hpath : l.searchPath.or envPath = none) :
    l.search g envPath files = none := by
  rw [search, if_neg (mt contains_slash_iff.1 h), hpath]
  rfl

/-- A search answers so, and changes nothing but the log. -/
def Answers (g : Files.Guard) (l : Locator) (envPath : Option Bytes) (s : Scene σ)
    (answer : Except LocateError Path) : Prop :=
  ∃ events, (l.locateOn g envPath).runOn s = (answer, { s with log := s.log ++ events })

theorem locate_given (g : Files.Guard) (envPath : Option Bytes) (s : Scene σ) {path : Path}
    (h : l.explicit = some path) : l.Answers g envPath s
      (if g.isExecutable s.files path then .ok path else .error (.notExecutable path)) := by
  refine ⟨[⟨.trace, target, "using explicit agent location",
    [("agent", .shown (Text.lossyText path))]⟩], ?_⟩
  rw [locateOn, h]
  by_cases hexecutable : g.isExecutable s.files path = true <;> simp [hexecutable]

theorem locate_blank (g : Files.Guard) (envPath : Option Bytes) (s : Scene σ)
    (h : l.explicit = none) (hblank : Text.blank l.binary = true) :
    l.Answers g envPath s (.error (.notFound l.binary)) := by
  refine ⟨[], ?_⟩
  rw [locateOn, h, hblank, List.append_nil]
  rfl

theorem locate_named (g : Files.Guard) (envPath : Option Bytes) (s : Scene σ) (h : l.Named) :
    l.Answers g envPath s
    (match l.search g envPath s.files with
      | some path => .ok path
      | none => .error (.notFound l.binary)) := by
  rw [Answers, locateOn, h.notGiven, h.blank_eq_false]
  simp only [Bool.false_eq_true, if_false, Act.runOn_bind, Act.runOn_look]
  cases l.search g envPath s.files with
  | none => exact ⟨[], by rw [List.append_nil]; rfl⟩
  | some path => exact ⟨_, rfl⟩

/-- A search ends in some way. -/
theorem ends_total (g : Files.Guard) (l : Locator) (envPath : Option Bytes) (files : Files.Tree) :
    ∃ answer, Ends g l envPath files answer := by
  -- each case rules out the ways before it
  cases hgiven : l.explicit with
  | some path =>
    by_cases h : Executable g files path
    · exact ⟨_, .explicit hgiven h⟩
    · exact ⟨_, .notExecutable hgiven h⟩
  | none =>
    by_cases hblank : ∀ c ∈ l.binary.toList, Text.isBlank c = true
    · exact ⟨_, .blank hgiven hblank⟩
    have hnamed : l.Named := by
      refine ⟨hgiven, ?_⟩
      simpa using hblank
    by_cases hslash : '/' ∈ l.binary.toList
    · by_cases h : Executable g files (Text.octets l.binary)
      · exact ⟨_, .location hgiven hslash h⟩
      · exact ⟨_, .noLocation hgiven hslash h⟩
    cases hpath : l.searchPath.or envPath with
    | none => exact ⟨_, .noSearchPath hnamed hslash hpath⟩
    | some searchPath =>
      cases hfirst : firstIn g files (Text.octets l.binary) (Path.searched searchPath) with
      | none =>
        rcases firstIn_eq_none_iff.1 hfirst with ⟨entries, hentries, hnone⟩
        exact ⟨_, .noneFound hnamed hslash hpath hentries hnone⟩
      | some path =>
        rcases firstIn_eq_some_iff.1 hfirst with
          ⟨before, dir, after, hentries, hdir, hexecutable, rfl, hbefore⟩
        exact ⟨_, .found hnamed hslash hpath hentries hdir hexecutable hbefore⟩

/-- The way in which a search ends is what is answered. -/
theorem Ends.answers {s : Scene σ} {answer : Except LocateError Path}
    (h : Ends g l envPath s.files answer) :
    l.Answers g envPath s answer := by
  cases h with
  | explicit hgiven h =>
    have hrun := locate_given g envPath s hgiven
    rwa [if_pos ((isExecutable_iff _ _ _).2 h)] at hrun
  | notExecutable hgiven h =>
    have hrun := locate_given g envPath s hgiven
    rwa [if_neg (mt (isExecutable_iff _ _ _).1 h)] at hrun
  | blank hgiven h => exact locate_blank g envPath s hgiven (blank_iff.2 h)
  | location hgiven hslash h =>
    have hrun := locate_named g envPath s (named_of_slash hgiven hslash)
    rwa [search_of_slash hslash, if_pos ((isExecutable_iff _ _ _).2 h)] at hrun
  | noLocation hgiven hslash h =>
    have hrun := locate_named g envPath s (named_of_slash hgiven hslash)
    rwa [search_of_slash hslash, if_neg (mt (isExecutable_iff _ _ _).1 h)] at hrun
  | found hnamed hslash hpath hentries hdir h hbefore =>
    have hrun := locate_named g envPath s hnamed
    rwa [search_of_path hslash hpath,
      firstIn_eq_some_iff.2 ⟨_, _, _, hentries, hdir, h, rfl, hbefore⟩] at hrun
  | noneFound hnamed hslash hpath hentries h =>
    have hrun := locate_named g envPath s hnamed
    rwa [search_of_path hslash hpath, firstIn_eq_none_iff.2 ⟨_, hentries, h⟩] at hrun
  | noSearchPath hnamed hslash h =>
    have hrun := locate_named g envPath s hnamed
    rwa [search_of_no_path hslash h] at hrun

/-- What is found can be executed. -/
theorem Ends.executable {path : Path} (h : Ends g l envPath files (.ok path)) :
    Executable g files path := by
  cases h with
  | explicit _ h => exact h
  | location _ _ h => exact h
  | found _ _ _ _ _ h _ => exact h

/-! ## Ways without a search -/

variable {g' : Files.Guard} {l' : Locator} {envPath' : Option Bytes} {files' : Files.Tree}
  {answer : Except LocateError Path}

/-- With a given location, nothing counts but whether it can be executed. -/
theorem Ends.of_given {path : Path} (h : Ends g l envPath files answer)
    (hgiven : l.explicit = some path) (hgiven' : l'.explicit = some path)
    (hsame : Executable g' files' path ↔ Executable g files path) :
    Ends g' l' envPath' files' answer := by
  have hnone : l.explicit ≠ none := by simp [hgiven]
  cases h with
  | explicit hpath h =>
    rcases Option.some.inj (hgiven.symm.trans hpath) with rfl
    exact .explicit hgiven' (hsame.2 h)
  | notExecutable hpath h =>
    rcases Option.some.inj (hgiven.symm.trans hpath) with rfl
    exact .notExecutable hgiven' (mt hsame.1 h)
  | blank h | location h | noLocation h => exact absurd h hnone
  | found h | noneFound h | noSearchPath h => exact absurd h.notGiven hnone

/-- With a slash in the name, nothing counts but whether the name itself can be executed. -/
theorem Ends.of_slash (h : Ends g l envPath files answer) (hgiven : l.explicit = none)
    (hgiven' : l'.explicit = none) (hbinary : l'.binary = l.binary)
    (hslash : '/' ∈ l.binary.toList)
    (hsame : Executable g' files' (Text.octets l.binary) ↔
      Executable g files (Text.octets l.binary)) :
    Ends g' l' envPath' files' answer := by
  rw [← hbinary] at hsame
  have hslash' : '/' ∈ l'.binary.toList := by rwa [hbinary]
  cases h with
  | explicit h | notExecutable h =>
    rw [hgiven] at h
    cases h
  | blank _ h => exact absurd (h '/' hslash) (by decide)
  | location _ _ h =>
    rw [← hbinary] at h ⊢
    exact .location hgiven' hslash' (hsame.2 h)
  | noLocation _ _ h =>
    rw [← hbinary] at h ⊢
    exact .noLocation hgiven' hslash' (mt hsame.1 h)
  | found _ h | noneFound _ h | noSearchPath _ h => exact absurd hslash h

end Locator

/-! ## Every search -/

/-- A location in an entry of a search path is the entry, a slash and the name; a slash at the end
of the entry is not doubled. -/
theorem join_entry {dir name : Bytes} (hdir : dir ≠ []) (hname : Path.slash ∉ name) :
    Path.join dir name =
      (if dir.getLast? = some Path.slash then dir else dir ++ [Path.slash]) ++ name := by
  have hempty : dir.isEmpty = false := by simpa using hdir
  rw [Path.join, Path.isAbsolute_of_slash_not_mem hname, hempty]
  by_cases hlast : dir.getLast? = some Path.slash
  · simp [hlast]
  · simp [hlast]

/-- A search answers a given location exactly if it can be executed, and otherwise refuses it. A
blank name is not found; a name with a slash is a location itself; any other is found in the first
entry of the search path that is not empty and has it. So what is found can be executed; whoever is
told that nothing was found reads the name and how to give a location. -/
theorem locate_ends (g : Files.Guard) (l : Locator) (envPath : Option Bytes) (s : Scene σ) :
    let after := (l.locateOn g envPath).runOn s
    l.locate envPath = l.locateOn (σ := σ) .none envPath ∧
    (∀ answer, after.1 = answer ↔ l.Ends g envPath s.files answer) ∧
    (∀ path, after.1 = .ok path → Executable g s.files path) ∧
    (∀ dir : Path, dir ≠ [] → '/' ∉ l.binary.toList → Path.join dir (Text.octets l.binary) =
      (if dir.getLast? = some Path.slash then dir else dir ++ [Path.slash]) ++
        Text.octets l.binary) ∧
    (∀ (path : Path) (g' : Files.Guard) (l' : Locator) (envPath' : Option Bytes) (t : Scene σ),
      l.explicit = some path → l'.explicit = some path →
      (Executable g' t.files path ↔ Executable g s.files path) →
      ((l'.locateOn g' envPath').runOn t).1 = after.1) ∧
    (∀ (g' : Files.Guard) (l' : Locator) (envPath' : Option Bytes) (t : Scene σ),
      l.explicit = none → l'.explicit = none → l'.binary = l.binary → '/' ∈ l.binary.toList →
      (Executable g' t.files (Text.octets l.binary) ↔ Executable g s.files (Text.octets l.binary)) →
      ((l'.locateOn g' envPath').runOn t).1 = after.1) ∧
    (∀ binary, after.1 = .error (.notFound binary) → binary = l.binary ∧
      ∃ front middle back, (LocateError.notFound binary).message =
        front ++ l.binary ++ middle ++ "PERFDBG_AGENT_PATH" ++ back) ∧
    ∃ events, after.2 = { s with log := s.log ++ events } := by
  intro after
  rcases Locator.ends_total g l envPath s.files with ⟨answer, hends⟩
  rcases hends.answers with ⟨events, hrun⟩
  have hafter : after = (answer, { s with log := s.log ++ events }) := hrun
  -- there is one answer, so any end that holds is the end of this search
  rw [hafter]
  refine ⟨rfl, ?_, ?_, ?_, ?_, ?_, ?_, events, rfl⟩
  · intro other
    constructor
    · rintro rfl
      exact hends
    · intro hother
      rcases hother.answers with ⟨events', hrun'⟩
      rw [hrun] at hrun'
      exact congrArg Prod.fst hrun'
  · rintro path rfl
    exact hends.executable
  · intro dir hdir hslash
    refine join_entry hdir ?_
    rw [← List.contains_iff_mem, Locator.contains_slash_iff]
    exact hslash
  · intro path g' l' envPath' t hgiven hgiven' hsame
    rcases (hends.of_given hgiven hgiven' hsame).answers with ⟨events', hrun'⟩
    rw [hrun']
  · intro g' l' envPath' t hgiven hgiven' hbinary hslash hsame
    rcases (hends.of_slash hgiven hgiven' hbinary hslash hsame).answers with ⟨events', hrun'⟩
    rw [hrun']
  · rintro binary rfl
    have hbinary : binary = l.binary := by
      cases hends <;> rfl
    rw [hbinary]
    exact ⟨rfl, "'", "' was not found on PATH; install it or point ", " at it", rfl⟩

/-- An empty entry, a directory of the tool's name and a file that no one may execute are passed
over. -/
example :
    let files : Files.Tree := { entries := [
      ⟨[Text.octets "a"], .dir, 0o755, 0⟩,
      ⟨[Text.octets "a", Text.octets "tool"], .dir, 0o755, 0⟩,
      ⟨[Text.octets "b"], .dir, 0o755, 0⟩,
      ⟨[Text.octets "b", Text.octets "tool"], .file [], 0o644, 0⟩,
      ⟨[Text.octets "c"], .dir, 0o755, 0⟩,
      ⟨[Text.octets "c", Text.octets "tool"], .link (Text.octets "../d"), 0o777, 0⟩,
      ⟨[Text.octets "d"], .file [], 0o100, 0⟩] }
    ({ binary := "tool" } : Locator).search .none (some (Text.octets ":/a:/b:/c/:/c")) files =
      some (Text.octets "/c/tool") := by
  decide +kernel

end SelfTrace
