import SelfTrace.Proofs.Places
import SelfTrace.Proofs.Watched
import SelfTrace.Rules.Provisioner

/-!
# Resources below their directory

The name of a resource is either refused before any file is touched, or it leads to something below
the directory of scripts, by the text of the path alone.

* `Path.Leaves` — a name that could lead out of a directory, told by its text;
* `Path.isRelativeName_eq_false_iff` — such names are the ones that are refused;
* `Path.components_join` — the parts of a path below a directory;
* `Provisioner.reads_confined` — what is read for a resource.
-/

namespace SelfTrace

namespace Path

/-! ## Names in a path -/

/-- A path starts with a name: a slash or the end is behind it. -/
def Starts (n : Bytes) (p : Path) : Prop :=
  ∃ after, p = n ++ after ∧ (after = [] ∨ ∃ rest, after = slash :: rest)

/-- A name stands in a path, between slashes or the ends of the path. -/
def Stands (n : Bytes) (p : Path) : Prop :=
  ∃ before after, p = before ++ (n ++ after) ∧ (before = [] ∨ ∃ front, before = front ++ [slash]) ∧
    (after = [] ∨ ∃ rest, after = slash :: rest)

theorem slash_not_mem_of_mem {n : Bytes} {p : Path} (h : n ∈ rawNames p) : slash ∉ n :=
  not_mem_of_mem_splitOn h

theorem intercalate_cons (n : Bytes) (r : List Bytes) :
    [slash].intercalate (n :: r) = n ++ r.flatMap (slash :: ·) := by
  induction r generalizing n with
  | nil => simp [List.intercalate]
  | cons m r ih =>
    rw [List.flatMap_cons, List.cons_append, ← ih m]
    simp [List.intercalate]

/-- A path is its names with slashes between them. -/
theorem eq_of_rawNames {p : Path} {l r : List Bytes} {n : Bytes}
    (h : rawNames p = l ++ n :: r) :
    p = l.flatMap (· ++ [slash]) ++ (n ++ r.flatMap (slash :: ·)) := by
  have hp := intercalate_splitOn slash p
  rw [← rawNames, h] at hp
  rw [← hp]
  clear h hp
  induction l with
  | nil => exact intercalate_cons n r
  | cons m l ih =>
    obtain ⟨m', r', hcons⟩ := List.exists_cons_of_ne_nil (show l ++ n :: r ≠ [] by simp)
    rw [hcons, intercalate_cons] at ih
    rw [List.cons_append, hcons, intercalate_cons, List.flatMap_cons, List.flatMap_cons,
      List.append_assoc, List.append_assoc, ← ih]
    simp

theorem flatMap_slash (r : List Bytes) :
    r.flatMap (slash :: ·) = [] ∨ ∃ rest, r.flatMap (slash :: ·) = slash :: rest := by
  cases r with
  | nil => exact .inl rfl
  | cons n r => exact .inr ⟨_, rfl⟩

theorem head?_rawNames_iff {n : Bytes} (hn : slash ∉ n) (p : Path) :
    (rawNames p).head? = some n ↔ Starts n p := by
  constructor
  · intro h
    obtain ⟨r, hr⟩ := List.head?_eq_some_iff.1 h
    exact ⟨_, eq_of_rawNames (l := []) hr, flatMap_slash r⟩
  · rintro ⟨_, rfl, rfl | ⟨rest, rfl⟩⟩
    · rw [List.append_nil, rawNames, splitOn_of_not_mem hn]
      rfl
    · rw [rawNames, splitOn_append, splitOn_of_not_mem hn]
      rfl

theorem mem_rawNames_iff {n : Bytes} (hn : slash ∉ n) (p : Path) :
    n ∈ rawNames p ↔ Stands n p := by
  constructor
  · intro h
    obtain ⟨l, r, hlr⟩ := List.append_of_mem h
    refine ⟨_, _, eq_of_rawNames hlr, ?_, flatMap_slash r⟩
    rcases List.eq_nil_or_concat l with rfl | ⟨l, m, rfl⟩
    · exact .inl rfl
    · refine .inr ⟨l.flatMap (· ++ [slash]) ++ m, ?_⟩
      simp
  · rintro ⟨before, after, rfl, hbefore, hafter⟩
    have hmem : n ∈ rawNames (n ++ after) :=
      List.mem_of_mem_head? ((head?_rawNames_iff hn _).2 ⟨after, rfl, hafter⟩)
    rcases hbefore with rfl | ⟨front, rfl⟩
    · exact hmem
    · rw [List.append_assoc, List.singleton_append, rawNames, splitOn_append]
      exact List.mem_append_right _ hmem

/-! ## Names that lead out of a directory -/

/-- A path that could lead out of a directory that it is joined to: it is empty, starts at the root
or with a dot, or goes up somewhere. -/
def Leaves (p : Path) : Prop :=
  p = [] ∨ (∃ rest, p = slash :: rest) ∨ Starts dot p ∨ Stands dotDot p

/-- A name of something in a directory. -/
structure Ordinary (n : Bytes) : Prop where
  ne_nil : n ≠ []
  ne_dot : n ≠ dot
  ne_dotDot : n ≠ dotDot
  noSlash : slash ∉ n

theorem isAbsolute_iff (p : Path) : isAbsolute p = true ↔ ∃ rest, p = slash :: rest := by
  rw [isAbsolute, beq_iff_eq, List.head?_eq_some_iff]

theorem component?_eq_none {n : Bytes} (h : n = [] ∨ n = dot) : component? n = none := by
  rcases h with rfl | rfl <;> rfl

theorem component?_eq_name {n : Bytes} (hne : n ≠ []) (hdot : n ≠ dot) (hup : n ≠ dotDot) :
    component? n = some (.name n) := by
  simp [component?, hne, hdot, hup]

/-- Without a name for the directory above, the parts of a path are its names. -/
theorem filterMap_component? {names : List Bytes} (h : dotDot ∉ names) :
    names.filterMap component? = (names.filter fun n => n ≠ [] ∧ n ≠ dot).map .name := by
  induction names with
  | nil => rfl
  | cons n names ih =>
    rw [List.mem_cons, not_or] at h
    by_cases hkept : n ≠ [] ∧ n ≠ dot
    · rw [List.filterMap_cons_some (component?_eq_name hkept.1 hkept.2 (Ne.symm h.1)),
        List.filter_cons_of_pos (by simpa using hkept), List.map_cons, ih h.2]
    · have hskipped : n = [] ∨ n = dot := by
        rw [not_and_or, not_not, not_not] at hkept
        exact hkept
      rw [List.filterMap_cons_none (component?_eq_none hskipped),
        List.filter_cons_of_neg (by simpa using hkept), ih h.2]

/-- The parts of a path that does not lead out: its names, at least one. -/
theorem components_eq {p : Path} (h : ¬Leaves p) :
    ∃ names, names ≠ [] ∧ (∀ n ∈ names, Ordinary n) ∧ components p = names.map .name ∧
      (rawNames p).filterMap component? = names.map .name := by
  simp only [Leaves, not_or] at h
  obtain ⟨hne, hroot, hdot, hup⟩ := h
  have habsolute : isAbsolute p = false := by
    rw [← Bool.not_eq_true, isAbsolute_iff]
    exact hroot
  have hhead : ¬(rawNames p).head? = some dot := by
    rw [head?_rawNames_iff (by decide)]
    exact hdot
  have hparent : dotDot ∉ rawNames p := by
    rw [mem_rawNames_iff (by decide)]
    exact hup
  have hfirst : components p = (rawNames p).filterMap component? := by
    simp [components, habsolute, hhead]
  have hnames := filterMap_component? hparent
  refine ⟨(rawNames p).filter fun n => n ≠ [] ∧ n ≠ dot, ?_, ?_, hfirst.trans hnames, hnames⟩
  · -- the first name is neither empty nor a dot
    obtain ⟨n, r, hr⟩ := List.exists_cons_of_ne_nil (splitOn_ne_nil slash p)
    rw [← rawNames] at hr
    have hn : n ≠ [] := by
      rintro rfl
      have hp := eq_of_rawNames (l := []) hr
      rcases flatMap_slash r with hnil | ⟨rest, hslash⟩
      · exact hne (by simpa [hnil] using hp)
      · exact hroot ⟨rest, by simpa [hslash] using hp⟩
    have hn' : n ≠ dot := by
      rintro rfl
      exact hhead (by rw [hr]; rfl)
    rw [hr]
    simp [hn, hn']
  · intro n hn
    obtain ⟨hmem, hkept⟩ := List.mem_filter.1 hn
    obtain ⟨hn₁, hn₂⟩ : n ≠ [] ∧ n ≠ dot := by simpa using hkept
    refine ⟨hn₁, hn₂, ?_, slash_not_mem_of_mem hmem⟩
    rintro rfl
    exact hparent hmem

/-- A path that could lead out has a part that is no name, or no part at all. -/
theorem exists_component_of_leaves {p : Path} (hne : p ≠ []) (h : Leaves p) :
    ∃ c ∈ components p, ∀ n, c ≠ .name n := by
  rcases h with hnil | hroot | hdot | hup
  · exact absurd hnil hne
  · refine ⟨.root, ?_, by simp⟩
    rw [components, if_pos ((isAbsolute_iff p).2 hroot)]
    simp
  · refine ⟨.current, ?_, by simp⟩
    have hhead := (head?_rawNames_iff (by decide) p).2 hdot
    obtain ⟨after, rfl, -⟩ := hdot
    have hrelative : isAbsolute (dot ++ after) = false := rfl
    rw [components, if_neg (by simp [hrelative]), if_pos (by simp [hhead])]
    simp
  · refine ⟨.parent, ?_, by simp⟩
    rw [components]
    refine List.mem_append_right _ (List.mem_filterMap.2 ⟨dotDot, ?_, by decide⟩)
    exact (mem_rawNames_iff (by decide) p).2 hup

/-- A path could lead out exactly if it is empty or one of its parts is no name. -/
theorem leaves_iff (p : Path) :
    Leaves p ↔ p = [] ∨ ∃ c ∈ components p, ∀ n, c ≠ .name n := by
  constructor
  · intro h
    by_cases hne : p = []
    · exact .inl hne
    · exact .inr (exists_component_of_leaves hne h)
  · intro h
    by_contra hstays
    rcases h with rfl | ⟨c, hc, hname⟩
    · exact hstays (.inl rfl)
    · obtain ⟨names, -, -, hcomponents, -⟩ := components_eq hstays
      rw [hcomponents] at hc
      obtain ⟨n, -, rfl⟩ := List.mem_map.1 hc
      exact hname n rfl

/-- The names that are refused are those that could lead out. -/
theorem isRelativeName_eq_false_iff (p : Path) : isRelativeName p = false ↔ Leaves p := by
  rw [leaves_iff, isRelativeName, Bool.and_eq_false_iff, List.all_eq_false]
  refine or_congr (by simp) ?_
  constructor
  · rintro ⟨c, hc, hname⟩
    refine ⟨c, hc, ?_⟩
    rintro n rfl
    exact hname rfl
  · rintro ⟨c, hc, hname⟩
    refine ⟨c, hc, ?_⟩
    cases c with
    | name n => exact absurd rfl (hname n)
    | root => simp
    | current => simp
    | parent => simp

/-! ## Paths below a directory -/

/-- The parts of a path below a directory are those of the directory and then its own. -/
theorem components_join {n : Path} (h : ¬Leaves n) (dir : Path) :
    components (join dir n) = components dir ++ components n := by
  obtain ⟨names, -, -, hcomponents, hnames⟩ := components_eq h
  simp only [Leaves, not_or] at h
  obtain ⟨hne, hroot, hdot, -⟩ := h
  have hrelative : isAbsolute n = false := by
    rw [← Bool.not_eq_true, isAbsolute_iff]
    exact hroot
  by_cases hempty : dir = []
  · -- an empty directory adds nothing
    subst hempty
    have hjoin : join [] n = n := by simp [join, hrelative]
    rw [hjoin]
    rfl
  · obtain ⟨b, dir', rfl⟩ := List.exists_cons_of_ne_nil hempty
    -- a root or a dot counts at the start alone, and that is the directory's
    have habsolute : isAbsolute (join (b :: dir') n) = isAbsolute (b :: dir') := by
      rw [join_eq hrelative]
      rfl
    have hway : wayTo (b :: dir') ≠ [] := by
      intro hnil
      rcases rawNames_eq (b :: dir') with hraw | hraw
      · exact splitOn_ne_nil slash _ (hraw.trans hnil)
      · rw [hnil] at hraw
        have hp := eq_of_rawNames (l := []) hraw
        simp at hp
    have hhead : (rawNames (join (b :: dir') n)).head? = (rawNames (b :: dir')).head? := by
      obtain ⟨m, way, hm⟩ := List.exists_cons_of_ne_nil hway
      rw [rawNames_join_relative hrelative, hm]
      rcases rawNames_eq (b :: dir') with hraw | hraw
      · rw [hraw, hm]
        rfl
      · rw [hraw, hm]
        rfl
    -- the slash at the end of a directory ends an empty name, which is no part
    have hkept : (wayTo (b :: dir')).filterMap component? =
        (rawNames (b :: dir')).filterMap component? := by
      rcases rawNames_eq (b :: dir') with hraw | hraw
      · rw [hraw]
      · rw [hraw, List.filterMap_append]
        simp [component?]
    rw [hcomponents, components, components, habsolute, hhead, rawNames_join_relative hrelative,
      List.filterMap_append, hkept, hnames, List.append_assoc]

end Path

/-! ## What is touched for a resource -/

/-- Something done to a file. -/
inductive DiskCall where
  | read (path : Path)
  | write (path : Path) (content : Bytes)
deriving DecidableEq, Repr

variable {σ : Type}

/-- A disk that notes what is done to its files. -/
def Disk.watched (d : Disk σ) : Disk (Watched DiskCall σ) where
  read path := (d.read path).watching fun _ => .read path
  write path content := (d.write path content).watching fun _ => .write path content

namespace Provisioner

/-- What reading the file of a resource comes to: a file that is not there leaves the built-in
resource, any other failure leaves nothing. -/
def answer (resource : String) (path : Path) :
    Except Failure Bytes → Act σ (Except ProvisionError Bytes)
  | .ok body => do
    Act.emit ⟨.debug, target, "resource served from overlay",
      [("resource", .text resource), ("path", .shown (Text.lossyText path))]⟩
    return .ok body
  | .error e =>
    if e.isNotFound then return loadBuiltIn resource else return .error (.read resource e)

section Loading

variable (d : Disk σ) (p : Provisioner) {resource : String}

theorem load_of_leaves (h : Path.Leaves (Text.octets resource)) :
    p.load d resource = pure (.error (.unknownResource resource)) := by
  rw [load, (Path.isRelativeName_eq_false_iff _).2 h]
  rfl

theorem load_of_stays (h : ¬Path.Leaves (Text.octets resource)) :
    p.load d resource = match p.overlay with
      | none => pure (loadBuiltIn resource)
      | some dir =>
        d.read (Path.join dir (Text.octets resource)) >>=
          answer resource (Path.join dir (Text.octets resource)) := by
  rw [← Path.isRelativeName_eq_false_iff, Bool.not_eq_false] at h
  rw [load, h]
  cases p.overlay with
  | none => rfl
  | some dir =>
    refine congrArg (d.read _ >>= ·) (funext fun r => ?_)
    cases r <;> rfl

end Loading

/-- Loading a resource reads nothing if its name could lead out, and else at most the file of that
name below the directory of scripts. -/
theorem load_mirrors (d : Disk σ) (p : Provisioner) (resource : String) (s : Scene σ) :
    (p.load d.watched resource).Mirrors (p.load d resource) s fun x y notes t =>
      x = y ∧
        ( Path.Leaves (Text.octets resource) ∧ notes = [] ∧
            y = .error (.unknownResource resource) ∧ t = s ∨
          ¬Path.Leaves (Text.octets resource) ∧
            notes = (p.overlay.map fun dir =>
              DiskCall.read (Path.join dir (Text.octets resource))).toList) := by
  by_cases hname : Path.Leaves (Text.octets resource)
  · rw [load_of_leaves _ _ hname, load_of_leaves _ _ hname]
    exact .pure ⟨rfl, .inl ⟨hname, rfl, rfl, rfl⟩⟩
  · rw [load_of_stays _ _ hname, load_of_stays _ _ hname]
    cases p.overlay with
    | none => exact .pure ⟨rfl, .inr ⟨hname, rfl⟩⟩
    | some dir =>
      refine (Act.Mirrors.watching _ _ s).bind ?_
      rintro r _ _ t - ⟨rfl, rfl⟩
      cases r with
      | ok body =>
        refine (Act.Mirrors.emit _ t).bind ?_
        rintro _ _ _ t' - ⟨-, rfl⟩
        exact .pure ⟨rfl, .inr ⟨hname, rfl⟩⟩
      | error e =>
        by_cases hmissing : e.isNotFound = true
        · rw [answer, answer, if_pos hmissing, if_pos hmissing]
          exact .pure ⟨rfl, .inr ⟨hname, rfl⟩⟩
        · rw [answer, answer, if_neg hmissing, if_neg hmissing]
          exact .pure ⟨rfl, .inr ⟨hname, rfl⟩⟩

/-- A provisioning writes at most its destination, after what was read. -/
theorem provisionOn_mirrors (d : Disk σ) (p : Provisioner) (resource : String) (dest : Path)
    (s : Scene σ) :
    (p.provisionOn d.watched resource dest).Mirrors (p.provisionOn d resource dest) s
      fun x y notes t =>
        x = y ∧
          ( Path.Leaves (Text.octets resource) ∧ notes = [] ∧
              y = .error (.unknownResource resource) ∧ t = s ∨
            ¬Path.Leaves (Text.octets resource) ∧ ∃ written,
              notes = (p.overlay.map fun dir =>
                DiskCall.read (Path.join dir (Text.octets resource))).toList ++ written ∧
              ∀ call ∈ written, ∃ body, call = .write dest body) := by
  refine (load_mirrors d p resource s).bind ?_
  rintro loaded _ reads t - ⟨rfl, ⟨hleaves, rfl, rfl, rfl⟩ | ⟨hstays, rfl⟩⟩
  · exact .pure ⟨rfl, .inl ⟨hleaves, rfl, rfl, rfl⟩⟩
  · cases loaded with
    | error e => exact .pure ⟨rfl, .inr ⟨hstays, [], rfl, by simp⟩⟩
    | ok body =>
      refine (Act.Mirrors.watching _ _ t).bind ?_
      rintro r _ _ t' - ⟨rfl, rfl⟩
      have hwritten : ∀ call ∈ [DiskCall.write dest body], ∃ content, call = .write dest content :=
        List.forall_mem_singleton.2 ⟨body, rfl⟩
      cases r with
      | error e => exact .pure ⟨rfl, .inr ⟨hstays, _, rfl, hwritten⟩⟩
      | ok _ =>
        refine (Act.Mirrors.emit _ t').bind ?_
        rintro _ _ _ t'' - ⟨-, rfl⟩
        exact .pure ⟨rfl, .inr ⟨hstays, _, rfl, hwritten⟩⟩

/-- Whatever a disk answers, the only path that is read for a resource is that of its name below the
directory of scripts, strictly below: its parts are those of the directory and then names, at least
one. A resource whose name is empty, starts at the root or with a dot or goes up anywhere is
unknown, and no file is read or written for it. -/
theorem reads_confined (d : Disk σ) (p : Provisioner) (resource : String) (dest : Path)
    (s : Scene σ) :
    let name := Text.octets resource
    let plain := (p.provisionOn d resource dest).runOn s
    let watched := (p.provisionOn d.watched resource dest).runOn (s.watched [])
    (Path.Leaves name ↔ name = [] ∨ ∃ c ∈ Path.components name, ∀ n, c ≠ .name n) ∧
    watched.1 = plain.1 ∧ ∃ calls, watched.2 = plain.2.watched calls ∧
      (∀ path, .read path ∈ calls ↔
        ¬Path.Leaves name ∧ ∃ dir, p.overlay = some dir ∧ path = Path.join dir name) ∧
      (∀ path, .read path ∈ calls → ∃ dir names, p.overlay = some dir ∧ names ≠ [] ∧
        (∀ n ∈ names, Path.Ordinary n) ∧
        Path.components path = Path.components dir ++ names.map .name) ∧
      (∀ path body, .write path body ∈ calls → path = dest) ∧
      (Path.Leaves name → calls = [] ∧ plain = (.error (.unknownResource resource), s)) := by
  intro name plain watched
  obtain ⟨calls, hscene, hresult, hcalls⟩ := provisionOn_mirrors d p resource dest s []
  refine ⟨Path.leaves_iff name, hresult, calls, hscene, ?_⟩
  rcases hcalls with ⟨hleaves, rfl, hanswer, hsame⟩ | ⟨hstays, written, rfl, hwritten⟩
  · refine ⟨fun path => ?_, by simp, by simp, fun _ => ⟨rfl, Prod.ext hanswer hsame⟩⟩
    have hname : Path.Leaves name := hleaves
    simp [hname]
  · have hreads : ∀ path, DiskCall.read path ∈ (p.overlay.map fun dir =>
        DiskCall.read (Path.join dir name)).toList ++ written ↔
          ∃ dir, p.overlay = some dir ∧ path = Path.join dir name := by
      intro path
      -- what is called after the overlay is one write at most
      have hnone : DiskCall.read path ∉ written := by
        intro hread
        obtain ⟨body, hbody⟩ := hwritten _ hread
        cases hbody
      rw [List.mem_append, or_iff_left hnone, Option.mem_toList, Option.map_eq_some_iff]
      constructor
      · rintro ⟨dir, hdir, hpath⟩
        exact ⟨dir, hdir, (DiskCall.read.inj hpath).symm⟩
      · rintro ⟨dir, hdir, rfl⟩
        exact ⟨dir, hdir, rfl⟩
    refine ⟨?_, ?_, ?_, fun hleaves => absurd hleaves hstays⟩
    · intro path
      rw [hreads, and_iff_right hstays]
    · intro path hread
      obtain ⟨dir, hdir, rfl⟩ := (hreads path).1 hread
      obtain ⟨names, hne, hordinary, hcomponents, -⟩ := Path.components_eq hstays
      exact ⟨dir, names, hdir, hne, hordinary,
        (Path.components_join hstays dir).trans (by rw [hcomponents])⟩
    · intro path body hwrite
      rcases List.mem_append.1 hwrite with hwrite | hwrite
      · simp [Option.mem_toList] at hwrite
      · obtain ⟨content, hcontent⟩ := hwritten _ hwrite
        cases hcontent
        rfl

end Provisioner

end SelfTrace
