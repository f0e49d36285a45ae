import SelfTrace.Proofs.Refusals
import SelfTrace.Proofs.Replacement

/-!
# Markers that a process holds open

A process is looked into by the links to the files that it holds open. A link tells a property if it
shows a marker right in the marker directory, and any other link is passed over.

* `Marks` — a path that is a marker in a directory, said apart from how it is read;
* `Exposes` — a property that one of the links of a process tells;
* `attach_reads_open_markers` — what the table of a process answers, in every order of its links;
* `open_marker_missed` — markers that are held open and not seen.
-/

namespace SelfTrace

open Files Files.Tree MarkerDirectory

/-! ## Paths in a directory -/

namespace Path

/-- A path that lies in a directory under a name has the parts of the directory and then the
name. -/
theorem parent?_fileName?_iff {p : Path} {dir : List Component} {n : Bytes} :
    parent? p = some dir ∧ fileName? p = some n ↔ components p = dir ++ [.name n] := by
  unfold parent? fileName?
  constructor
  · rintro ⟨hparent, hname⟩
    split at hname
    · next n' hlast =>
      rcases Option.some.inj hname with rfl
      rw [hlast] at hparent
      rcases List.getLast?_eq_some_iff.1 hlast with ⟨front, hfront⟩
      rw [hfront, List.dropLast_concat] at hparent
      rw [hfront, Option.some.inj hparent]
    · cases hname
  · intro h
    rw [h, List.getLast?_concat, List.dropLast_concat]
    exact ⟨rfl, rfl⟩

/-- The parts of the path of a place: the root, and the parts that its names are. -/
theorem components_ofNames (q : List Bytes) :
    components (ofNames q) =
      .root :: (splitOn slash (q.flatMap (slash :: ·))).filterMap component? := by
  cases q with
  | nil => rfl
  | cons n q =>
    have habsolute : isAbsolute (slash :: (n ++ q.flatMap (slash :: ·))) = true := rfl
    have hnames : ofNames (n :: q) = slash :: (n ++ q.flatMap (slash :: ·)) := rfl
    rw [hnames, components, habsolute]
    rfl

/-- What lies in a place has one part more than the place. -/
theorem components_ofNames_concat (q : List Bytes) {n : Bytes} (hslash : slash ∉ n)
    (hnamed : (n.isEmpty || n == dot) = false) (hup : (n == dotDot) = false) :
    components (ofNames (q ++ [n])) = components (ofNames q) ++ [.name n] := by
  have hn : component? n = some (.name n) := by
    rw [component?, hnamed, hup]
    rfl
  rw [components_ofNames, components_ofNames, List.flatMap_append, List.flatMap_singleton,
    splitOn_append, splitOn_of_not_mem hslash, List.filterMap_append, List.filterMap_cons_some hn]
  rfl

end Path

namespace MarkerDirectory

variable {d : MarkerDirectory} {key value : String} {files : Tree} {pid : ProcessId}
  {names : List Bytes}

/-! ## Properties told by paths -/

/-- A path is the marker of a property in a directory: its parts are those of the directory and the
name of the marker, whose first `=` ends the key. -/
structure Marks (dir opened : Path) (key value : String) : Prop where
  inside : Path.components opened = Path.components dir ++ [.name (marker key value)]
  noEquals : '=' ∉ key.toList

/-- A path tells the property whose marker it is. -/
theorem property?_eq_some_iff {dir opened : Path} :
    property? dir opened = some (key, value) ↔ Marks dir opened key value := by
  unfold property?
  constructor
  · intro h
    split at h
    · cases h
    · next hparent =>
      -- the name is text, and the text is cut where it holds `=`
      simp only [Option.bind_eq_bind, Option.bind_eq_some_iff] at h
      rcases h with ⟨n, hn, cs, hcs, ⟨k, v⟩, hsplit, h⟩
      have hpair := Prod.mk.inj (Option.some.inj h)
      have hparts := splitMarker?_eq_some_iff.1 hsplit
      have hkey : key.toList = k := by rw [← hpair.1, String.toList_ofList]
      have hvalue : value.toList = v := by rw [← hpair.2, String.toList_ofList]
      have hmarker : n = marker key value := by
        rw [Text.decode?_eq_some_iff.1 hcs, hparts.1, marker, Text.octets, toList_markerName, hkey,
          hvalue]
      rw [hmarker] at hn
      refine ⟨Path.parent?_fileName?_iff.1 ⟨?_, hn⟩, ?_⟩
      · simpa using hparent
      · rw [hkey]
        exact hparts.2
  · rintro ⟨hinside, hequals⟩
    rcases Path.parent?_fileName?_iff.2 hinside with ⟨hparent, hname⟩
    have hdecode : Text.decode? (marker key value) = some (markerName key value).toList :=
      Text.decode?_encode _
    rw [hparent, if_neg (by simp), hname]
    simp only [Option.bind_eq_bind, Option.bind_some, hdecode, splitMarker?_markerName hequals]
    simp

/-! ## Properties of a process -/

/-- Where the links to the files are that a process holds open. -/
def openFiles (d : MarkerDirectory) (pid : ProcessId) : Path :=
  Path.join (Path.join d.procRoot (Text.octets pid.text)) (Text.octets "fd")

/-- The path by which links show the marker directory: the canonical one, or the configured one
where there is none. -/
def shownDir (d : MarkerDirectory) (files : Tree) : Path :=
  match files.canonical d.dir with
  | .ok p => p
  | .error _ => d.dir

/-- A process shows a property: one of its links can be read, and shows the marker. -/
def Exposes (d : MarkerDirectory) (files : Tree) (pid : ProcessId) (names : List Bytes)
    (key value : String) : Prop :=
  ∃ n ∈ names, ∃ opened, files.readLink (Path.join (d.openFiles pid) n) = .ok opened ∧
    Marks (d.shownDir files) opened key value

/-- The table of a process, by the names of its links in some order. -/
def tableOf (d : MarkerDirectory) (files : Tree) (pid : ProcessId) (names : List Bytes) :
    MarkerTable :=
  ⟨pid, some (propertiesIn files (d.shownDir files) (d.openFiles pid) names)⟩

/-- A process whose links can be listed is attached. -/
theorem attach_listed {s : Scene Published} (h : s.files.list (d.openFiles pid) = .ok names) :
    (d.attach pid).runOn s = (.ok (d.tableOf s.files pid names), s) := by
  unfold attach
  rw [Act.runOn_bind, Act.runOn_get]
  dsimp only
  rw [← openFiles, h]
  rfl

/-- The property that a link tells, if it can be read. -/
def linkProperty? (d : MarkerDirectory) (files : Tree) (pid : ProcessId) (n : Bytes) :
    Option (String × String) :=
  match files.readLink (Path.join (d.openFiles pid) n) with
  | .ok opened => property? (d.shownDir files) opened
  | .error _ => none

theorem exposes_iff : d.Exposes files pid names key value ↔
    (key, value) ∈ names.filterMap (d.linkProperty? files pid) := by
  rw [List.mem_filterMap]
  refine exists_congr fun n => and_congr_right fun _ => ?_
  unfold linkProperty?
  cases files.readLink (Path.join (d.openFiles pid) n) with
  | error e => simp
  | ok opened => simp [property?_eq_some_iff]

/-- Of the properties of one key the last counts. -/
theorem find?_foldl_property (ps : List (String × String)) (key : String) :
    (ps.foldl property []).find? (·.1 == key) = ps.reverse.find? (·.1 == key) := by
  induction ps using List.reverseRecOn with
  | nil => rfl
  | append_singleton ps p ih =>
    rw [List.foldl_append, List.reverse_append, List.foldl_cons, List.foldl_nil,
      List.reverse_singleton, List.singleton_append, property]
    -- the last property stands in front of the table, and those of its key are dropped behind it
    by_cases hp : p.1 = key
    · rw [List.find?_cons_of_pos (by simpa using hp), List.find?_cons_of_pos (by simpa using hp)]
    · rw [List.find?_cons_of_neg (by simpa using hp), List.find?_cons_of_neg (by simpa using hp),
        ← ih, List.find?_filter]
      congr 1
      funext q
      by_cases hq : q.1 = key
      · simp [hq, Ne.symm hp]
      · simp [hq]

theorem tableGet_tableOf (key : String) : tableGet (d.tableOf files pid names) key =
    .ok (((names.filterMap (d.linkProperty? files pid)).reverse.find? (·.1 == key)).map (·.2)) := by
  rw [← find?_foldl_property]
  rfl

/-- A value that is answered is one that the process shows. -/
theorem exposes_of_tableGet (h : tableGet (d.tableOf files pid names) key = .ok (some value)) :
    d.Exposes files pid names key value := by
  rw [tableGet_tableOf] at h
  rcases Option.map_eq_some_iff.1 (Except.ok.inj h) with ⟨⟨k, v⟩, hfind, rfl⟩
  have hkey : k = key := by simpa using List.find?_some hfind
  rw [exposes_iff, ← List.mem_reverse, ← hkey]
  exact List.mem_of_find?_eq_some hfind

/-- None is answered exactly if the process shows none. -/
theorem tableGet_eq_none_iff : tableGet (d.tableOf files pid names) key = .ok none ↔
    ∀ value, ¬d.Exposes files pid names key value := by
  rw [tableGet_tableOf, Except.ok.injEq, Option.map_eq_none_iff, List.find?_eq_none]
  simp only [exposes_iff, List.mem_reverse]
  constructor
  · intro h value hmem
    exact h _ hmem (by simp)
  · rintro h ⟨k, v⟩ hmem hkey
    have hkey : k = key := by simpa using hkey
    rw [hkey] at hmem
    exact h v hmem

/-- The one value that a process shows under a key is answered. -/
theorem tableGet_of_only (h : d.Exposes files pid names key value)
    (honly : ∀ v, d.Exposes files pid names key v → v = value) :
    tableGet (d.tableOf files pid names) key = .ok (some value) := by
  cases hget : tableGet (d.tableOf files pid names) key with
  | error e =>
    rw [tableGet_tableOf] at hget
    cases hget
  | ok answer =>
    cases answer with
    | none => exact absurd h (tableGet_eq_none_iff.1 hget value)
    | some v => rw [honly v (exposes_of_tableGet hget)]

theorem Exposes.perm {order : List Bytes} (hperm : order.Perm names) :
    d.Exposes files pid order key value ↔ d.Exposes files pid names key value := by
  unfold Exposes
  simp only [hperm.mem_iff]

/-! ## Markers that were published -/

/-- A process holds open the file that a publication made: one of its links shows the file. -/
def HoldsOpen (d : MarkerDirectory) (before : Scene Published) (files : Tree) (pid : ProcessId)
    (names : List Bytes) (key value : String) : Prop :=
  ((d.publish key value).runOn before).1 = .ok () ∧
    ∃ n ∈ names, ∃ shown, files.readLink (Path.join (d.openFiles pid) n) = .ok shown ∧
      ((d.publish key value).runOn before).2.files.canonical (d.markerPath key value) = .ok shown

/-- A marker has its place in the directory, as the directory is known later on: its name is no
link, and the directory leads where it led. -/
structure InPlace (d : MarkerDirectory) (made files : Tree) (key value : String) : Prop where
  noLink : ∀ target, made.readLink (d.markerPath key value) ≠ .ok target
  sameDir : ∃ shown, made.canonical d.dir = .ok shown ∧ files.canonical d.dir = .ok shown

/-- A path that leads somewhere has a canonical path, which is that of the place. -/
theorem canonical_eq_ok_iff {p shown : Path} :
    files.canonical p = .ok shown ↔
      ∃ e, files.find true p = .ok e ∧ shown = Path.ofNames e.place := by
  unfold canonical
  cases files.find true p with
  | error e => simp
  | ok e => simp [eq_comm]

/-- What a publication has made is a file, which has a path of its own. -/
theorem published_file {before : Scene Published}
    (h : ((d.publish key value).runOn before).1 = .ok ()) :
    ((d.publish key value).runOn before).2.files.read (d.markerPath key value) = .ok [] ∧
      ∃ shown, ((d.publish key value).runOn before).2.files.canonical (d.markerPath key value) =
        .ok shown := by
  have hread := publish_ok_read h
  refine ⟨hread, ?_⟩
  unfold Tree.read at hread
  split at hread
  · cases hread
  · next e hfind => exact ⟨_, canonical_eq_ok_iff.2 ⟨e, hfind, rfl⟩⟩

/-- The canonical path of a directory is that of the place where the directory leads. -/
theorem canonical_directory {p shown : Path} {q : Place} (hq : files.directory? p = some q)
    (h : files.canonical p = .ok shown) : shown = Path.ofNames q := by
  rcases canonical_eq_ok_iff.1 h with ⟨e, hfind, rfl⟩
  -- the empty path leads to the working directory before a name only, and has no path of its own
  have hp : p ≠ [] := by
    rintro rfl
    cases hfind
  rw [directory?, if_neg (by simpa using hp), hfind] at hq
  dsimp only at hq
  split at hq
  · rw [Option.some.inj hq]
  · cases hq

/-- A marker that is no link is in the directory. -/
theorem place_of_marker (hfits : d.Fits key value) {e : Entry}
    (hlink : ∀ target, files.readLink (d.markerPath key value) ≠ .ok target)
    (h : files.find true (d.markerPath key value) = .ok e) :
    ∃ q, files.directory? d.dir = some q ∧ e.place = q ++ [marker key value] := by
  have hslash := slash_not_mem_marker hfits.expressible
  rcases marker_named key value with ⟨hnamed, hup⟩
  -- a link that had the name would be read by the path of the marker
  have hnolink : ∀ q e path, files.directory? d.dir = some q →
      files.entry? (q ++ [marker key value]) = some e → e.node ≠ .link path := by
    intro q e path hq hentry hnode
    have hfind := (find_join_eq_ok_iff hslash hfits.proper hfits.usable).2 ⟨q, hq, hentry⟩
    refine hlink path ?_
    rw [readLink, markerPath, hfind]
    dsimp only
    rw [hnode]
  have hresolve := (find_true_eq_ok_iff.1 h).1
  rcases resolve_join_cases hslash hnamed hup hnolink hresolve with
    ⟨q, hq, -, -, ⟨-, habsent⟩ | ⟨-, -, hat⟩⟩
  · cases habsent
  · exact ⟨q, hq, Target.at.inj hat⟩

/-- A published marker that is held open and in its place is seen. -/
theorem HoldsOpen.exposes {before : Scene Published}
    (h : d.HoldsOpen before files pid names key value)
    (hplace : d.InPlace ((d.publish key value).runOn before).2.files files key value) :
    d.Exposes files pid names key value := by
  rcases h with ⟨hpublished, n, hn, opened, hlink, hopened⟩
  rcases hplace.sameDir with ⟨shown, hmade, hfiles⟩
  have hfits := (publish_ok_state hpublished).1
  rcases canonical_eq_ok_iff.1 hopened with ⟨e, hfind, rfl⟩
  rcases place_of_marker hfits hplace.noLink hfind with ⟨q, hq, he⟩
  have hdir : d.shownDir files = Path.ofNames q := by
    rw [shownDir, hfiles]
    exact canonical_directory hq hmade
  rcases marker_named key value with ⟨hnamed, hup⟩
  refine ⟨n, hn, _, hlink, ?_, (expressible_iff.1 hfits.expressible).2.1⟩
  -- the link shows the place of the file, one name below that of the directory
  rw [hdir, he]
  exact Path.components_ofNames_concat q (slash_not_mem_marker hfits.expressible) hnamed hup

/-! ## Every process -/

/-- What a table answers, told by the links of its process. -/
structure Reads (d : MarkerDirectory) (files : Tree) (pid : ProcessId) (names : List Bytes)
    (table : MarkerTable) : Prop where
  /-- A value is answered only if one of the links that can be read shows its marker. -/
  shown : ∀ key value, tableGet table key = .ok (some value) →
    d.Exposes files pid names key value
  none_iff : ∀ key, tableGet table key = .ok none ↔ ∀ value, ¬d.Exposes files pid names key value
  /-- The only value that is shown under a key is answered. -/
  only : ∀ key value, d.Exposes files pid names key value →
    (∀ v, d.Exposes files pid names key v → v = value) → tableGet table key = .ok (some value)
  /-- So is a value that was published, if its marker is held open and in its place. -/
  published : ∀ (key value : String) (before : Scene Published),
    d.HoldsOpen before files pid names key value →
    d.InPlace ((d.publish key value).runOn before).2.files files key value →
    (∀ v, d.Exposes files pid names key v → v = value) → tableGet table key = .ok (some value)
  /-- A table that was given back answers nothing any more. -/
  detached : ∀ s : Scene Published, ∃ gone,
    (d.introspector.detach table).runOn s = ((gone, .ok ()), s) ∧
      ∀ key, tableGet gone key = .error (.noSuchProcess pid)

/-- The order in which the links of a process are listed does not matter. -/
theorem tableOf_reads {order : List Bytes} (hperm : order.Perm names) :
    d.Reads files pid names (d.tableOf files pid order) := by
  have hexposes : ∀ key value, d.Exposes files pid order key value ↔
      d.Exposes files pid names key value := fun _ _ => Exposes.perm hperm
  have honly : ∀ key value, d.Exposes files pid names key value →
      (∀ v, d.Exposes files pid names key v → v = value) →
      tableGet (d.tableOf files pid order) key = .ok (some value) := by
    intro key value hshown honly
    refine tableGet_of_only ((hexposes key value).2 hshown) ?_
    intro v hv
    exact honly v ((hexposes key v).1 hv)
  constructor
  case shown =>
    intro key value hget
    exact (hexposes key value).1 (exposes_of_tableGet hget)
  case none_iff =>
    intro key
    rw [tableGet_eq_none_iff]
    simp only [hexposes]
  case only => exact honly
  case published =>
    intro key value before hopen hplace
    exact honly key value (hopen.exposes hplace)
  case detached =>
    intro s
    exact ⟨_, rfl, fun key => rfl⟩

end MarkerDirectory

/-- A process whose links can be listed is attached, whatever the links are, and in whatever order
they are listed its table answers what they show. What a publication has made is a file, which can
be held open. -/
theorem attach_reads_open_markers (d : MarkerDirectory) (pid : ProcessId) {s : Scene Published}
    {names : List Bytes} (h : s.files.list (d.openFiles pid) = .ok names) :
    (d.attach pid).runOn s = (.ok (d.tableOf s.files pid names), s) ∧
    (∀ order : List Bytes, order.Perm names →
      d.Reads s.files pid names (d.tableOf s.files pid order)) ∧
    ∀ (key value : String) (before : Scene Published),
      ((d.publish key value).runOn before).1 = .ok () →
      ((d.publish key value).runOn before).2.files.read (d.markerPath key value) = .ok [] ∧
        ∃ shown, ((d.publish key value).runOn before).2.files.canonical (d.markerPath key value) =
          .ok shown := by
  refine ⟨attach_listed h, ?_, ?_⟩
  · intro order hperm
    exact tableOf_reads hperm
  · intro key value before hpublished
    exact published_file hpublished

/-! ## Markers that are seen and missed -/

/-- Process 7 with two open files: one is shown by a path, the other has none. -/
def openFileEntries (shown : Path) : List Entry :=
  [⟨[Text.octets "proc"], .dir, 0o755, 0⟩, ⟨[Text.octets "proc", Text.octets "7"], .dir, 0o755, 0⟩,
    ⟨[Text.octets "proc", Text.octets "7", Text.octets "fd"], .dir, 0o755, 0⟩,
    ⟨[Text.octets "proc", Text.octets "7", Text.octets "fd", Text.octets "3"],
      .link shown, 0o777, 0⟩,
    ⟨[Text.octets "proc", Text.octets "7", Text.octets "fd", Text.octets "4"],
      .link (Text.octets "pipe:[9]"), 0o777, 0⟩]

/-- The names of its links. -/
def openFileNames : List Bytes := [Text.octets "3", Text.octets "4"]

/-- The process beside other entries, before anything was published. -/
def openFileScene (others : List Entry) (shown : Path) : Scene Published :=
  { state := [], files.entries := others ++ openFileEntries shown }

/-- Markers below the root. -/
def rootMarkers : MarkerDirectory :=
  { dir := Text.octets "/markers", procRoot := Text.octets "/proc" }

/-- The process has published a value with a `=` in it. -/
def openFilePublished : Scene Published :=
  ((rootMarkers.publish "k" "a=b").runOn (openFileScene
    [⟨[Text.octets "markers"], .dir, 0o755, 0⟩] (Text.octets "/markers/k=a=b"))).2

/-- A value with a `=` in it that is held open is seen, beside an open file that is no marker. -/
theorem attach_reads_open_markers_published :
    openFilePublished.files.list (rootMarkers.openFiles ⟨7⟩) = .ok openFileNames ∧
      tableGet (rootMarkers.tableOf openFilePublished.files ⟨7⟩ openFileNames) "k" =
        .ok (some "a=b") := by
  have hlist : openFilePublished.files.list (rootMarkers.openFiles ⟨7⟩) = .ok openFileNames := by
    decide +kernel
  have hopen : rootMarkers.HoldsOpen (openFileScene [⟨[Text.octets "markers"], .dir, 0o755, 0⟩]
      (Text.octets "/markers/k=a=b")) openFilePublished.files ⟨7⟩ openFileNames "k" "a=b" := by
    refine ⟨by decide +kernel, Text.octets "3", List.mem_cons_self,
      Text.octets "/markers/k=a=b", ?_, ?_⟩
    · decide +kernel
    · decide +kernel
  have hplace : rootMarkers.InPlace openFilePublished.files openFilePublished.files "k" "a=b" := by
    refine ⟨?_, Text.octets "/markers", by decide +kernel, by decide +kernel⟩
    have hfile : openFilePublished.files.readLink (rootMarkers.markerPath "k" "a=b") =
        .error .invalidArgument := by
      decide +kernel
    rw [hfile]
    simp
  have hshown : openFileNames.filterMap
      (rootMarkers.linkProperty? openFilePublished.files ⟨7⟩) = [("k", "a=b")] := by
    decide +kernel
  have honly : ∀ v, rootMarkers.Exposes openFilePublished.files ⟨7⟩ openFileNames "k" v →
      v = "a=b" := by
    intro v hv
    rw [exposes_iff, hshown, List.mem_singleton] at hv
    exact (Prod.mk.inj hv).2
  have hreads := (attach_reads_open_markers rootMarkers ⟨7⟩ hlist).2.1 openFileNames (.refl _)
  exact ⟨hlist, hreads.published "k" "a=b" _ hopen hplace honly⟩

/-- A value was published and its marker is held open, no other is shown under its key, and none is
answered. -/
def Missed (d : MarkerDirectory) (before : Scene Published) (files : Tree) (pid : ProcessId)
    (key value : String) : Prop :=
  ∃ names, files.list (d.openFiles pid) = .ok names ∧
    d.HoldsOpen before files pid names key value ∧
    (∀ v, d.Exposes files pid names key v → v = value) ∧
    tableGet (d.tableOf files pid names) key = .ok none

theorem missed_of_none {d : MarkerDirectory} {before : Scene Published} {files : Tree}
    {key value : String} (shown : Path)
    (hlist : files.list (d.openFiles ⟨7⟩) = .ok openFileNames)
    (hpublished : ((d.publish key value).runOn before).1 = .ok ())
    (hlink : files.readLink (Path.join (d.openFiles ⟨7⟩) (Text.octets "3")) = .ok shown)
    (hmade : ((d.publish key value).runOn before).2.files.canonical (d.markerPath key value) =
      .ok shown)
    (hnone : tableGet (d.tableOf files ⟨7⟩ openFileNames) key = .ok none) :
    Missed d before files ⟨7⟩ key value := by
  refine ⟨openFileNames, hlist, ⟨hpublished, _, List.mem_cons_self, shown, hlink, hmade⟩, ?_, hnone⟩
  -- nothing else is shown where none is answered
  intro v hv
  exact absurd hv (tableGet_eq_none_iff.1 hnone v)

/-- Markers that are held open and missed: the name of one is a link that led elsewhere when it was
made; another was made in a directory that has no path of its own; the directory of the third has
been replaced by another one since. -/
theorem open_marker_missed :
    let linked := openFileScene [⟨[Text.octets "markers"], .dir, 0o755, 0⟩,
      ⟨[Text.octets "markers", Text.octets "k=v"], .link (Text.octets "/held"), 0o777, 0⟩]
      (Text.octets "/held")
    let here : MarkerDirectory := { rootMarkers with dir := [] }
    let unnamed := openFileScene [] (Text.octets "/k=v")
    let moved := openFileScene [⟨[Text.octets "a"], .dir, 0o755, 0⟩,
      ⟨[Text.octets "b"], .dir, 0o755, 0⟩,
      ⟨[Text.octets "markers"], .link (Text.octets "/a"), 0o777, 0⟩] (Text.octets "/a/k=v")
    Missed rootMarkers linked ((rootMarkers.publish "k" "v").runOn linked).2.files ⟨7⟩ "k" "v" ∧
      Missed here unnamed ((here.publish "k" "v").runOn unnamed).2.files ⟨7⟩ "k" "v" ∧
      Missed rootMarkers moved (((rootMarkers.publish "k" "v").runOn moved).2.files.insert
        ⟨[Text.octets "markers"], .link (Text.octets "/b"), 0o777, 0⟩) ⟨7⟩ "k" "v" := by
  refine ⟨missed_of_none (Text.octets "/held") ?_ ?_ ?_ ?_ ?_,
    missed_of_none (Text.octets "/k=v") ?_ ?_ ?_ ?_ ?_,
    missed_of_none (Text.octets "/a/k=v") ?_ ?_ ?_ ?_ ?_⟩
  all_goals decide +kernel

end SelfTrace
