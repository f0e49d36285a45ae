import Mathlib.Data.List.Nodup
import SelfTrace.Proofs.Ancestors
import SelfTrace.Proofs.Keeping
import SelfTrace.Proofs.MarkerNames

/-!
# Markers of one owner

What an owner has published stands as files in the directory, beside the markers of others.

* `IsMarker` — a marker in the directory;
* `Recorded` — an owner has at most one record under a key, the path of a marker;
* `Tidy` — the markers in the directory are what is recorded as published;
* `Touched` — all that was made or removed is a marker in the directory, new directories apart;
* `retract_leads`, `publish_leads`, `retractAll_leads` — each keeps the directory tidy.
-/

namespace SelfTrace.MarkerDirectory

open Files Files.Tree

/-! ## Markers in the directory -/

/-- The path of a marker. -/
def markerPath (d : MarkerDirectory) (key value : String) : Path :=
  Path.join d.dir (marker key value)

/-- A file or a link in the directory whose name is that of a marker. -/
def IsMarker (d : MarkerDirectory) (files : Tree) (n : Bytes) : Prop :=
  equals ∈ n ∧ ∃ q e, files.directory? d.dir = some q ∧ files.entry? (q ++ [n]) = some e ∧
    e.node ≠ .dir

/-- A property whose marker can be made, for what the paths and names are concerned. -/
structure Fits (d : MarkerDirectory) (key value : String) : Prop where
  expressible : expressible key value = true
  proper : Proper (marker key value)
  usable : Usable (d.markerPath key value)

variable {d : MarkerDirectory} {key key' value value' : String} {files : Tree}

theorem markerPath_inj (h : '/' ∉ key.toList) :
    d.markerPath key value = d.markerPath key value' ↔ value = value' := by
  rw [markerPath, markerPath, Path.join_inj (isAbsolute_marker h) (isAbsolute_marker h), marker,
    marker, Text.octets_inj, ← String.toList_inj, toList_markerName, toList_markerName,
    List.append_cancel_left_eq, List.cons.injEq, String.toList_inj]
  simp

/-- What is recorded when the record of a marker was added. -/
theorem mem_concat_iff {published : Published} (h : '/' ∉ key.toList) :
    (key', d.markerPath key' value') ∈ published ++ [(key, d.markerPath key value)] ↔
      (key', d.markerPath key' value') ∈ published ∨ key' = key ∧ value' = value := by
  rw [List.mem_append, List.mem_singleton, Prod.mk.injEq]
  refine or_congr_right ⟨?_, ?_⟩
  · intro hrecord
    obtain ⟨rfl, hpath⟩ := hrecord
    exact ⟨rfl, (markerPath_inj h).1 hpath⟩
  · intro hsame
    obtain ⟨rfl, rfl⟩ := hsame
    exact ⟨rfl, rfl⟩

theorem marker_named (key value : String) :
    ((marker key value).isEmpty || marker key value == Path.dot) = false ∧
      (marker key value == Path.dotDot) = false := by
  have hequals : equals ∈ marker key value := equals_mem_marker key value
  refine ⟨?_, ?_⟩
  · rw [Bool.or_eq_false_iff]
    constructor
    · rw [List.isEmpty_eq_false_iff]
      exact List.ne_nil_of_mem hequals
    · rw [beq_eq_false_iff_ne]
      intro hdot
      rw [hdot] at hequals
      exact absurd hequals (by decide)
  · rw [beq_eq_false_iff_ne]
    intro hup
    rw [hup] at hequals
    exact absurd hequals (by decide)

/-- A marker whose path leads somewhere leads into the directory, if it is no link. -/
theorem remove_marker (h : d.Fits key value) {q : Place} {e : Entry} {content : Bytes}
    (hq : files.directory? d.dir = some q)
    (hentry : files.entry? (q ++ [marker key value]) = some e) (hnode : e.node = .file content) :
    files.remove (d.markerPath key value) = .ok (files.erase (q ++ [marker key value])) := by
  have hfind : files.find false (d.markerPath key value) = .ok e :=
    (find_join_eq_ok_iff (slash_not_mem_marker h.expressible) h.proper h.usable).2 ⟨q, hq, hentry⟩
  rw [remove, hfind]
  dsimp only
  rw [hnode, place_of_entry? hentry]

/-- To write a marker puts a file into the directory. -/
theorem write_marker {made : Tree} (hexpressible : expressible key value = true)
    (hnolink : ∀ q e path, files.directory? d.dir = some q →
      files.entry? (q ++ [marker key value]) = some e → e.node ≠ .link path)
    (h : files.write (d.markerPath key value) [] = .ok made) :
    d.Fits key value ∧ ∃ q e, files.directory? d.dir = some q ∧
      made = files.insert e ∧ e.place = q ++ [marker key value] ∧ e.node = .file [] ∧
      ∀ e', files.entry? (q ++ [marker key value]) = some e' → e'.node ≠ .dir := by
  obtain ⟨hnamed, hup⟩ := marker_named key value
  unfold write at h
  split at h
  · cases h
  · next dir name hresolve =>
    obtain ⟨q, hq, husable, hproper, ⟨hfree, htarget⟩ | ⟨e, -, htarget⟩⟩ :=
      resolve_join_cases (slash_not_mem_marker hexpressible) hnamed hup hnolink hresolve
    · cases htarget
      refine ⟨⟨hexpressible, hproper, husable⟩, _, _, hq, (Except.ok.inj h).symm, rfl, rfl, ?_⟩
      intro e' he'
      rw [hfree] at he'
      cases he'
    · cases htarget
  · next place hresolve =>
    obtain ⟨q, hq, husable, hproper, ⟨-, htarget⟩ | ⟨e, hentry, htarget⟩⟩ :=
      resolve_join_cases (slash_not_mem_marker hexpressible) hnamed hup hnolink hresolve
    · cases htarget
    · cases htarget
      rw [hentry] at h
      dsimp only at h
      split at h
      · cases h
      · next hnode =>
        have hplace : e.place = q ++ [marker key value] := place_of_entry? hentry
        refine ⟨⟨hexpressible, hproper, husable⟩, q, _, hq, (Except.ok.inj h).symm,
          hplace, rfl, ?_⟩
        intro e' he'
        rw [hentry] at he'
        cases he'
        exact hnode

theorem isMarker_iff {q : Place} (hq : files.directory? d.dir = some q) (n : Bytes) :
    d.IsMarker files n ↔
      equals ∈ n ∧ ∃ e, files.entry? (q ++ [n]) = some e ∧ e.node ≠ .dir := by
  constructor
  · intro h
    obtain ⟨hequals, q', e, hq', hentry, hnode⟩ := h
    rw [hq] at hq'
    cases hq'
    exact ⟨hequals, e, hentry, hnode⟩
  · intro h
    obtain ⟨hequals, e, hentry, hnode⟩ := h
    exact ⟨hequals, q, e, hq, hentry, hnode⟩

/-- A marker that is removed is a marker less. -/
theorem isMarker_erase {q : Place} {m : Bytes} {e : Entry} {content : Bytes}
    (hq : files.directory? d.dir = some q) (hentry : files.entry? (q ++ [m]) = some e)
    (hnode : e.node = .file content) (n : Bytes) :
    d.IsMarker (files.erase (q ++ [m])) n ↔ n ≠ m ∧ d.IsMarker files n := by
  rw [isMarker_iff (directory?_erase hentry hnode hq), isMarker_iff hq]
  by_cases hn : n = m
  · subst hn
    rw [entry?_erase_self (by simp)]
    simp
  · rw [entry?_erase_ne (by simpa using hn)]
    simp [hn]

/-- A marker that is written where nothing was is a marker more. -/
theorem isMarker_insert {q : Place} {m : Bytes} {e : Entry}
    (hq : files.directory? d.dir = some q) (hfree : files.entry? e.place = none)
    (hplace : e.place = q ++ [m]) (hequals : equals ∈ m) (hnode : e.node ≠ .dir) (n : Bytes) :
    d.IsMarker (files.insert e) n ↔ n = m ∨ d.IsMarker files n := by
  rw [isMarker_iff (directory?_within (within_insert hfree) rfl hq), isMarker_iff hq]
  by_cases hn : n = m
  · subst hn
    rw [← hplace, entry?_insert_self (by simp [hplace])]
    simp [hequals, hnode]
  · rw [entry?_insert_ne (by simpa [hplace] using hn)]
    simp [hn]

/-- New directories are no markers. -/
theorem isMarker_extended {made : Tree} {q : Place} (h : files.Extended made)
    (hq : files.directory? d.dir = some q) (n : Bytes) :
    d.IsMarker made n ↔ d.IsMarker files n := by
  rw [isMarker_iff (directory?_within h.within h.workingDir hq), isMarker_iff hq]
  constructor
  · intro hmarker
    obtain ⟨hequals, e, hentry, hnode⟩ := hmarker
    rcases h.dirs _ e hentry with hbefore | ⟨-, hdir⟩
    · exact ⟨hequals, e, hbefore, hnode⟩
    · exact absurd hdir hnode
  · intro hmarker
    obtain ⟨hequals, e, hentry, hnode⟩ := hmarker
    exact ⟨hequals, e, h.within _ e hentry, hnode⟩

/-! ## What is recorded -/

/-- An owner has at most one record under a key, and it is the path of a marker. -/
structure Recorded (d : MarkerDirectory) (published : Published) : Prop where
  keyed : (published.map (·.1)).Nodup
  paths : ∀ r ∈ published, ∃ value, d.Fits r.1 value ∧ r.2 = d.markerPath r.1 value

namespace Recorded

variable {published : Published}

theorem nil (d : MarkerDirectory) : d.Recorded [] where
  keyed := List.nodup_nil
  paths := nofun

theorem sublist (h : d.Recorded published) {left : Published} (hleft : left.Sublist published) :
    d.Recorded left where
  keyed := h.keyed.sublist (hleft.map _)
  paths := fun r hr => h.paths r (hleft.subset hr)

theorem concat (h : d.Recorded published) (hkey : ∀ r ∈ published, r.1 ≠ key)
    (hfits : d.Fits key value) : d.Recorded (published ++ [(key, d.markerPath key value)]) where
  keyed := by
    rw [List.map_append, List.map_singleton, List.nodup_append]
    refine ⟨h.keyed, List.nodup_singleton _, ?_⟩
    intro k hk k' hk'
    obtain ⟨r, hr, rfl⟩ := List.mem_map.1 hk
    rw [List.mem_singleton.1 hk']
    exact hkey r hr
  paths := by
    intro r hr
    rcases List.mem_append.1 hr with hr | hr
    · exact h.paths r hr
    · rw [List.mem_singleton.1 hr]
      exact ⟨value, hfits, rfl⟩

theorem fits (h : d.Recorded published) (hmem : (key, d.markerPath key value) ∈ published) :
    d.Fits key value := by
  obtain ⟨value', hfits, hpath⟩ := h.paths _ hmem
  have hvalue := (markerPath_inj (expressible_iff.1 hfits.expressible).1).1 hpath
  rw [hvalue]
  exact hfits

/-- Of one key there is one record. -/
theorem value_unique (h : d.Recorded published) (hmem : (key, d.markerPath key value) ∈ published)
    (hmem' : (key, d.markerPath key value') ∈ published) : value = value' := by
  have hslash := (expressible_iff.1 (h.fits hmem).expressible).1
  have hrecord := List.inj_on_of_nodup_map h.keyed hmem hmem' rfl
  injection hrecord with _ hpath
  exact (markerPath_inj hslash).1 hpath

end Recorded

/-! ## What is made and removed -/

/-- All that was made, changed or removed is in the directory and has the name of a marker, new
directories apart. The directory stays where it is. -/
structure Touched (d : MarkerDirectory) (before after : Tree) : Prop where
  stays : ∀ q, before.directory? d.dir = some q → after.directory? d.dir = some q
  places : ∀ p, after.entry? p = before.entry? p ∨
    before.entry? p = none ∧ after.isDir p = true ∨
    ∃ q n, after.directory? d.dir = some q ∧ p = q ++ [n] ∧ equals ∈ n

theorem Touched.refl (d : MarkerDirectory) (files : Tree) : d.Touched files files where
  stays := fun _ h => h
  places := fun _ => .inl rfl

theorem Touched.trans {before between after : Tree} (h : d.Touched before between)
    (h' : d.Touched between after) : d.Touched before after where
  stays := fun q hq => h'.stays q (h.stays q hq)
  places := by
    intro p
    rcases h'.places p with hsame | ⟨hnone, hdir⟩ | hmarker
    · rw [hsame]
      rcases h.places p with hbefore | ⟨hnone, hdir⟩ | ⟨q, n, hq, hp, hequals⟩
      · exact .inl hbefore
      · refine .inr (.inl ⟨hnone, ?_⟩)
        rw [isDir, hsame]
        exact hdir
      · exact .inr (.inr ⟨q, n, h'.stays q hq, hp, hequals⟩)
    · rcases h.places p with hbefore | ⟨-, hdir'⟩ | ⟨q, n, hq, hp, hequals⟩
      · exact .inr (.inl ⟨hbefore ▸ hnone, hdir⟩)
      · rw [isDir, hnone] at hdir'
        cases hdir'
      · exact .inr (.inr ⟨q, n, h'.stays q hq, hp, hequals⟩)
    · exact .inr (.inr hmarker)

theorem touched_extended {made : Tree} (h : files.Extended made) : d.Touched files made where
  stays := fun _ hq => directory?_within h.within h.workingDir hq
  places := by
    intro p
    cases hmade : made.entry? p with
    | none =>
      cases hbefore : files.entry? p with
      | none => exact .inl rfl
      | some e =>
        rw [h.within p e hbefore] at hmade
        cases hmade
    | some e =>
      rcases h.dirs p e hmade with hbefore | ⟨hnone, hdir⟩
      · exact .inl hbefore.symm
      · exact .inr (.inl ⟨hnone, isDir_iff.2 ⟨e, hmade, hdir⟩⟩)

theorem touched_erase {q : Place} {m : Bytes} {e : Entry} {content : Bytes}
    (hq : files.directory? d.dir = some q) (hentry : files.entry? (q ++ [m]) = some e)
    (hnode : e.node = .file content) (hequals : equals ∈ m) :
    d.Touched files (files.erase (q ++ [m])) where
  stays := fun _ hq' => directory?_erase hentry hnode hq'
  places := by
    intro p
    by_cases hp : p = q ++ [m]
    · exact .inr (.inr ⟨q, m, directory?_erase hentry hnode hq, hp, hequals⟩)
    · exact .inl (entry?_erase_ne hp)

theorem touched_insert {q : Place} {m : Bytes} {e : Entry}
    (hq : files.directory? d.dir = some q) (hstays : ∀ q', files.directory? d.dir = some q' →
      (files.insert e).directory? d.dir = some q')
    (hplace : e.place = q ++ [m]) (hequals : equals ∈ m) : d.Touched files (files.insert e) where
  stays := hstays
  places := by
    intro p
    by_cases hp : p = e.place
    · exact .inr (.inr ⟨q, m, hstays q hq, hp.trans hplace, hequals⟩)
    · exact .inl (entry?_insert_ne hp)

/-! ## A tidy directory -/

/-- The name is that of a marker of a property that is recorded as published. -/
def Names (d : MarkerDirectory) (published : Published) (n : Bytes) : Prop :=
  ∃ key value, (key, d.markerPath key value) ∈ published ∧ n = marker key value

/-- The directory holds the markers of an owner and those of others, and nothing else that looks
like a marker; each of them is a file. Where there is no directory yet there will be no markers in
it when it is made. -/
structure Tidy (d : MarkerDirectory) (others : Bytes → Prop) (published : Published)
    (files : Tree) : Prop where
  keyed : (published.map (·.1)).Nodup
  recorded : ∀ r ∈ published, ∃ value, d.Fits r.1 value ∧ r.2 = d.markerPath r.1 value
  apart : ∀ key value, (key, d.markerPath key value) ∈ published → ¬others (marker key value)
  markers : ∀ n, d.IsMarker files n ↔ others n ∨ d.Names published n
  regular : ∀ q n e, files.directory? d.dir = some q → files.entry? (q ++ [n]) = some e →
    equals ∈ n → e.node ≠ .dir → ∃ content, e.node = .file content
  clear : files.directory? d.dir = none → ∀ made, files.makeAllDirs d.dir = (made, .ok ()) →
    ∀ n, ¬d.IsMarker made n

namespace Tidy

variable {others : Bytes → Prop} {published : Published}

theorem records (h : d.Tidy others published files) : d.Recorded published :=
  ⟨h.keyed, h.recorded⟩

theorem fits (h : d.Tidy others published files)
    (hmem : (key, d.markerPath key value) ∈ published) : d.Fits key value :=
  h.records.fits hmem

/-- A recorded marker stands in the directory as a file. -/
theorem stands (h : d.Tidy others published files)
    (hmem : (key, d.markerPath key value) ∈ published) :
    ∃ q e content, files.directory? d.dir = some q ∧
      files.entry? (q ++ [marker key value]) = some e ∧ e.node = .file content := by
  obtain ⟨hequals, q, e, hq, hentry, hnode⟩ :=
    (h.markers (marker key value)).2 (.inr ⟨key, value, hmem, rfl⟩)
  obtain ⟨content, hfile⟩ := h.regular q _ e hq hentry hequals hnode
  exact ⟨q, e, content, hq, hentry, hfile⟩

/-- Of one key there is one record. -/
theorem value_unique (h : d.Tidy others published files)
    (hmem : (key, d.markerPath key value) ∈ published)
    (hmem' : (key, d.markerPath key value') ∈ published) : value = value' :=
  h.records.value_unique hmem hmem'

/-- A marker less, in the directory and in the records. -/
theorem erase (h : d.Tidy others published files) {q : Place} {e : Entry} {content : Bytes}
    (hmem : (key, d.markerPath key value) ∈ published) (hq : files.directory? d.dir = some q)
    (hentry : files.entry? (q ++ [marker key value]) = some e) (hnode : e.node = .file content) :
    d.Tidy others (published.filter (·.1 != key)) (files.erase (q ++ [marker key value])) where
  keyed := (h.records.sublist List.filter_sublist).keyed
  recorded := (h.records.sublist List.filter_sublist).paths
  apart := fun key' value' hr => h.apart key' value' (List.mem_filter.1 hr).1
  markers := by
    intro n
    rw [isMarker_erase hq hentry hnode, h.markers]
    constructor
    · intro hmarker
      obtain ⟨hne, hothers | ⟨key', value', hmem', rfl⟩⟩ := hmarker
      · exact .inl hothers
      · have hkey : key' ≠ key := by
          rintro rfl
          exact hne (h.value_unique hmem' hmem ▸ rfl)
        exact .inr ⟨key', value', List.mem_filter.2 ⟨hmem', by simpa using hkey⟩, rfl⟩
    · intro hmarker
      rcases hmarker with hothers | ⟨key', value', hmem', rfl⟩
      · refine ⟨?_, .inl hothers⟩
        rintro rfl
        exact h.apart key value hmem hothers
      · obtain ⟨hmem', hkey⟩ := List.mem_filter.1 hmem'
        refine ⟨?_, .inr ⟨key', value', hmem', rfl⟩⟩
        intro heq
        rw [marker_inj (h.fits hmem').expressible (h.fits hmem).expressible] at heq
        simp [heq.1] at hkey
  regular := by
    intro q' n e' hq' hentry' hequals hnode'
    rw [directory?_erase hentry hnode hq] at hq'
    cases hq'
    by_cases hn : n = marker key value
    · subst hn
      rw [entry?_erase_self (by simp)] at hentry'
      cases hentry'
    · rw [entry?_erase_ne (by simpa using hn)] at hentry'
      exact h.regular q n e' hq hentry' hequals hnode'
  clear := by
    intro hnone
    rw [directory?_erase hentry hnode hq] at hnone
    cases hnone

/-- Making the directory makes no markers. -/
theorem made (h : d.Tidy others published files) {made : Tree}
    (hmade : files.makeAllDirs d.dir = (made, .ok ())) : d.Tidy others published made where
  keyed := h.keyed
  recorded := h.recorded
  apart := h.apart
  markers := by
    intro n
    cases hq : files.directory? d.dir with
    | some q => rw [isMarker_extended (makeAllDirs_extended hmade) hq, h.markers]
    | none =>
      have hbefore : ¬d.IsMarker files n := by
        intro hmarker
        obtain ⟨-, q, e, hq', -⟩ := hmarker
        rw [hq] at hq'
        cases hq'
      rw [← h.markers]
      exact ⟨fun hmarker => absurd hmarker (h.clear hq made hmade n),
        fun hmarker => absurd hmarker hbefore⟩
  regular := by
    intro q n e hq hentry hequals hnode
    cases hbefore : files.directory? d.dir with
    | some q' =>
      have hextended := makeAllDirs_extended hmade
      have hq' := directory?_within hextended.within hextended.workingDir hbefore
      rw [hq] at hq'
      cases hq'
      rcases hextended.dirs _ e hentry with hthere | ⟨-, hdir⟩
      · exact h.regular q n e hbefore hthere hequals hnode
      · exact absurd hdir hnode
    | none => exact absurd ⟨hequals, q, e, hq, hentry, hnode⟩ (h.clear hbefore made hmade n)
  clear := by
    intro hnone
    by_cases husable : Usable d.dir
    · rcases makeAllDirs_ok hmade husable with hsame | ⟨q, hq⟩
      · rw [hsame] at hnone ⊢
        exact h.clear hnone
      · rw [hnone] at hq
        cases hq
    · -- a path that cannot be handed over leads nowhere, whatever is made
      intro made' _ n hmarker
      obtain ⟨-, q, e, hq, -⟩ := hmarker
      exact husable (directory?_eq_some_iff.1 hq).1

/-- Where the directory could not be made there are no markers, and there will be none. -/
theorem halted (h : d.Tidy others published files) {made : Tree} {e : Failure}
    (hmade : files.makeAllDirs d.dir = (made, .error e)) : d.Tidy others published made := by
  obtain ⟨hbefore, hafter, e', hstuck⟩ := makeAllDirs_error hmade
  have hnone {tree : Tree} (hdir : tree.directory? d.dir = none) (n : Bytes) :
      ¬d.IsMarker tree n := by
    rintro ⟨-, q, entry, hq, -⟩
    rw [hdir] at hq
    cases hq
  refine ⟨h.keyed, h.recorded, h.apart, ?_, ?_, ?_⟩
  · intro n
    rw [← h.markers]
    exact iff_of_false (hnone hafter n) (hnone hbefore n)
  · intro q n entry hq
    rw [hafter] at hq
    cases hq
  · intro _ made' hmade'
    rw [hstuck] at hmade'
    cases hmade'

/-- A marker more, in the directory and in the records. -/
theorem insert (h : d.Tidy others published files) {q : Place} {e : Entry}
    (hkey : ∀ r ∈ published, r.1 ≠ key) (hfits : d.Fits key value)
    (hothers : ¬others (marker key value)) (hq : files.directory? d.dir = some q)
    (hplace : e.place = q ++ [marker key value]) (hnode : e.node = .file [])
    (hfree : files.entry? e.place = none) :
    d.Tidy others (published ++ [(key, d.markerPath key value)]) (files.insert e) where
  keyed := (h.records.concat hkey hfits).keyed
  recorded := (h.records.concat hkey hfits).paths
  apart := by
    intro key' value' hr
    rcases (mem_concat_iff (expressible_iff.1 hfits.expressible).1).1 hr with hr | ⟨rfl, rfl⟩
    · exact h.apart key' value' hr
    · exact hothers
  markers := by
    intro n
    have hequals : equals ∈ marker key value := equals_mem_marker key value
    rw [isMarker_insert hq hfree hplace hequals (by simp [hnode]), h.markers]
    constructor
    · intro hmarker
      rcases hmarker with rfl | hothers' | ⟨key', value', hmem, rfl⟩
      · exact .inr ⟨key, value, List.mem_append_right _ (List.mem_singleton_self _), rfl⟩
      · exact .inl hothers'
      · exact .inr ⟨key', value', List.mem_append_left _ hmem, rfl⟩
    · intro hmarker
      rcases hmarker with hothers' | ⟨key', value', hmem, rfl⟩
      · exact .inr (.inl hothers')
      · rcases (mem_concat_iff (expressible_iff.1 hfits.expressible).1).1 hmem with
          hmem | ⟨rfl, rfl⟩
        · exact .inr (.inr ⟨key', value', hmem, rfl⟩)
        · exact .inl rfl
  regular := by
    intro q' n e' hq' hentry hequals hnode'
    rw [directory?_within (within_insert hfree) rfl hq] at hq'
    cases hq'
    -- the new entry is a file, and the others were there before
    by_cases hn : n = marker key value
    · rw [hn, ← hplace, entry?_insert_self (by simp [hplace])] at hentry
      cases hentry
      exact ⟨[], hnode⟩
    · rw [entry?_insert_ne (by simpa [hplace] using hn)] at hentry
      exact h.regular q n e' hq hentry hequals hnode'
  clear := by
    intro hnone
    rw [directory?_within (within_insert hfree) rfl hq] at hnone
    cases hnone

/-- The place of a marker that is neither recorded nor another owner's is free, or a directory. -/
theorem free (h : d.Tidy others published files) (hkey : ∀ r ∈ published, r.1 ≠ key)
    (hexpressible : expressible key value = true) (hothers : ¬others (marker key value)) {q : Place}
    (hq : files.directory? d.dir = some q)
    (hfile : ∀ e, files.entry? (q ++ [marker key value]) = some e → e.node ≠ .dir) :
    files.entry? (q ++ [marker key value]) = none := by
  cases hentry : files.entry? (q ++ [marker key value]) with
  | none => rfl
  | some e =>
    have hmarker : d.IsMarker files (marker key value) :=
      ⟨equals_mem_marker key value, q, e, hq, hentry, hfile e hentry⟩
    rcases (h.markers _).1 hmarker with hother | ⟨key', value', hmem, heq⟩
    · exact absurd hother hothers
    · rw [marker_inj hexpressible (h.fits hmem).expressible] at heq
      exact absurd heq.1.symm (hkey _ hmem)

/-- A marker that is written under a key without a record: the directory stays tidy unless the
marker is another owner's. -/
theorem write (h : d.Tidy others published files) (hkey : ∀ r ∈ published, r.1 ≠ key)
    (hexpressible : expressible key value = true) {written : Tree}
    (hwrite : files.write (d.markerPath key value) [] = .ok written) :
    d.Fits key value ∧ d.Touched files written ∧ (¬others (marker key value) →
      d.Tidy others (published ++ [(key, d.markerPath key value)]) written) := by
  have hfile : ∀ q e, files.directory? d.dir = some q →
      files.entry? (q ++ [marker key value]) = some e → e.node ≠ .dir →
        ∃ content, e.node = .file content := by
    intro q e hq hentry hnode
    exact h.regular q _ e hq hentry (equals_mem_marker key value) hnode
  have hnolink : ∀ q e path, files.directory? d.dir = some q →
      files.entry? (q ++ [marker key value]) = some e → e.node ≠ .link path := by
    intro q e path hq hentry hlink
    obtain ⟨content, hnode⟩ := hfile q e hq hentry (by simp [hlink])
    rw [hlink] at hnode
    cases hnode
  obtain ⟨hfits, q, e, hq, rfl, hplace, hnode, hold⟩ := write_marker hexpressible hnolink hwrite
  have hstays : ∀ q', files.directory? d.dir = some q' →
      (files.insert e).directory? d.dir = some q' := by
    intro q' hq'
    refine directory?_insert ?_ hq'
    rw [hplace]
    intro e' he'
    exact hfile q e' hq he' (hold e' he')
  refine ⟨hfits, touched_insert hq hstays hplace (equals_mem_marker key value), ?_⟩
  intro hothers
  refine h.insert hkey hfits hothers hq hplace hnode ?_
  rw [hplace]
  exact h.free hkey hexpressible hothers hq hold

end Tidy

/-! ## Withdrawing -/

/-- All that withdrawing a key can come to: nothing is recorded under it and nothing happens, or its
record goes, and its marker with it if it can be removed. -/
theorem retract_cases (key : String) (s : Scene Published) :
    (∀ r ∈ s.state, r.1 ≠ key) ∧ ((retract key).runOn s).2 = s ∨
    ∃ path, (key, path) ∈ s.state ∧
      ((retract key).runOn s).2.state = s.state.filter (·.1 != key) ∧
      ((retract key).runOn s).2.files = s.files.removed path := by
  rw [retract, Act.runOn_bind, Act.runOn_state]
  cases hfind : s.state.find? (·.1 == key) with
  | none =>
    refine .inl ⟨?_, rfl⟩
    intro r hr
    simpa using List.find?_eq_none.1 hfind r hr
  | some r =>
    obtain ⟨key', path⟩ := r
    obtain rfl : key' = key := by simpa using List.find?_some hfind
    refine .inr ⟨path, List.mem_of_find?_eq_some hfind, ?_⟩
    dsimp only
    rw [Act.runOn_bind, Act.runOn_update, Act.runOn_bind]
    cases hremove : s.files.remove path with
    | ok gone =>
      rw [Act.runOn_change_ok hremove, removed_of_ok hremove]
      exact ⟨rfl, rfl⟩
    | error e =>
      rw [Act.runOn_change_error hremove, removed_of_error hremove]
      exact ⟨rfl, rfl⟩

/-- Nothing is recorded under a key that was withdrawn, whether or not its marker could be
removed. -/
theorem retract_state (key : String) (s : Scene Published) :
    ((retract key).runOn s).2.state = s.state.filter (·.1 != key) := by
  obtain ⟨hnone, hsame⟩ | ⟨path, -, hstate, -⟩ := retract_cases key s
  · rw [hsame, List.filter_eq_self.2]
    intro r hr
    simpa using hnone r hr
  · exact hstate

/-- Without a record of a key nothing happens; else its marker and its record go. -/
theorem retract_leads {others : Bytes → Prop} (key : String) (s : Scene Published)
    (h : d.Tidy others s.state s.files) :
    (retract key).Leads s fun _ t => t.state = s.state.filter (·.1 != key) ∧
      d.Tidy others t.state t.files ∧ d.Touched s.files t.files := by
  refine ⟨retract_state key s, ?_⟩
  obtain ⟨-, hsame⟩ | ⟨path, hmem, hstate, hfiles⟩ := retract_cases key s
  · rw [hsame]
    exact ⟨h, .refl d s.files⟩
  · obtain ⟨value, hfits, hpath⟩ := h.recorded _ hmem
    dsimp only at hfits hpath
    subst hpath
    obtain ⟨q, e, content, hq, hentry, hnode⟩ := h.stands hmem
    rw [hstate, hfiles, removed_of_ok (remove_marker hfits hq hentry hnode)]
    exact ⟨h.erase hmem hq hentry hnode,
      touched_erase hq hentry hnode (equals_mem_marker key value)⟩

/-! ## Publishing -/

/-- To publish makes or renews one marker, or changes no more than to withdraw does. The directory
stays tidy unless another owner holds the same property afterwards. -/
theorem publish_leads {others : Bytes → Prop} (key value : String) (s : Scene Published)
    (h : d.Tidy others s.state s.files) :
    (d.publish key value).Leads s fun answer t =>
      d.Touched s.files t.files ∧
      (answer = .ok () → d.Fits key value ∧
        t.state = s.state.filter (·.1 != key) ++ [(key, d.markerPath key value)]) ∧
      ((∀ key value, d.Fits key value → (key, d.markerPath key value) ∈ t.state →
        ¬others (marker key value)) → d.Tidy others t.state t.files) := by
  unfold publish
  split
  · exact ⟨.refl d s.files, nofun, fun _ => h⟩
  · next hexpressible =>
    have hexpressible : expressible key value = true := by simpa using hexpressible
    refine (retract_leads key s h).bind ?_
    intro _ t hretracted
    obtain ⟨hstate, htidy, htouched⟩ := hretracted
    have htouched {made : Tree} {answer : Except Failure Unit}
        (hmake : t.files.makeAllDirs d.dir = (made, answer)) : d.Touched s.files made :=
      htouched.trans (touched_extended (makeAllDirs_extended hmake))
    rcases hmake : t.files.makeAllDirs d.dir with ⟨made, e | _⟩
    · rw [Act.Leads, Act.runOn_bind, Act.runOn_alter hmake]
      exact ⟨htouched hmake, nofun, fun _ => htidy.halted hmake⟩
    · rw [Act.Leads, Act.runOn_bind, Act.runOn_alter hmake]
      have hmade := htidy.made hmake
      have htouched := htouched hmake
      cases hwrite : made.write (d.markerPath key value) [] with
      | error e =>
        dsimp only
        rw [Act.runOn_bind, Act.runOn_change_error hwrite]
        exact ⟨htouched, nofun, fun _ => hmade⟩
      | ok written =>
        -- what stood under the key is withdrawn by now
        have hkey : ∀ r ∈ t.state, r.1 ≠ key := by
          intro r hr
          rw [hstate] at hr
          simpa using (List.mem_filter.1 hr).2
        obtain ⟨hfits, hwritten, hafter⟩ := hmade.write hkey hexpressible hwrite
        dsimp only
        rw [Act.runOn_bind, Act.runOn_change_ok hwrite, Act.runOn_bind, Act.runOn_emit,
          Act.runOn_bind, Act.runOn_update]
        refine ⟨htouched.trans hwritten, fun _ => ?_, fun hapart => ?_⟩
        · rw [← hstate]
          exact ⟨hfits, rfl⟩
        · exact hafter (hapart key value hfits
            (List.mem_append_right _ (List.mem_singleton_self _)))

/-! ## The end of an owner -/

/-- Withdraws what is published under the keys of some records. -/
def retractEach (records : Published) : Act Published Unit := do
  for (key, _) in records do
    retract key

theorem retractEach_cons (r : String × Path) (records : Published) (s : Scene Published) :
    (retractEach (r :: records)).runOn s =
      (retractEach records).runOn ((retract r.1).runOn s).2 := by
  rw [retractEach, List.forIn_cons]
  rfl

/-- To withdraw some keys takes their records away. -/
theorem retractEach_leads {others : Bytes → Prop} (records : Published) (s : Scene Published)
    (h : d.Tidy others s.state s.files) :
    (retractEach records).Leads s fun _ t =>
      t.state = s.state.filter (fun r => !(records.map (·.1)).contains r.1) ∧
      d.Tidy others t.state t.files ∧ d.Touched s.files t.files := by
  induction records generalizing s with
  | nil =>
    have hsame : s.state.filter (fun r => !(([] : Published).map (·.1)).contains r.1) =
        s.state := by simp
    rw [hsame]
    exact ⟨rfl, h, .refl d s.files⟩
  | cons r records ih =>
    rw [Act.Leads, retractEach_cons]
    obtain ⟨hstate, htidy, htouched⟩ := retract_leads r.1 s h
    obtain ⟨hstate', htidy', htouched'⟩ := ih _ htidy
    refine ⟨?_, htidy', htouched.trans htouched'⟩
    rw [hstate', hstate, List.filter_filter]
    congr 1
    funext r'
    rw [List.map_cons, List.contains_cons, Bool.not_or, Bool.and_comm]
    rfl

/-- In the end nothing is published any more. -/
theorem retractAll_leads {others : Bytes → Prop} (s : Scene Published)
    (h : d.Tidy others s.state s.files) :
    retractAll.Leads s fun _ t => t.state = [] ∧ d.Tidy others t.state t.files ∧
      d.Touched s.files t.files := by
  have hall := retractEach_leads s.state s h
  have hnone : s.state.filter (fun r => !(s.state.map (·.1)).contains r.1) = [] := by
    rw [List.filter_eq_nil_iff]
    intro r hr
    have hmem := List.mem_map_of_mem (f := Prod.fst) hr
    simpa using hmem
  rw [hnone] at hall
  exact hall

end SelfTrace.MarkerDirectory
