import SelfTrace.Proofs.MarkerOwners
import SelfTrace.Proofs.Writing

/-!
# Publications that are refused

To publish under a key begins with withdrawing what is published there, unless the property cannot
be expressed as a marker at all. What is refused after that stays withdrawn.

* `publish_cases` — all that a publication can come to, from any scene;
* `run_recorded` — what an owner has recorded under a key is the path of a marker, after every run;
* `refused_publish_leaves` — what is held and which files there are after a refusal;
* `refused_publish_withdraws` — a value that is lost to a refused publication.
-/

namespace SelfTrace

open Files Files.Tree MarkerDirectory

namespace MarkerDirectory

variable {d : MarkerDirectory} {key value : String} {s : Scene Published} {e : IntrospectError}

/-! ## One owner -/

/-- A marker that can be written has a path that can be handed over and a name that a file can
have, be it written through a link. -/
theorem fits_of_write {files written : Tree} (hexpressible : expressible key value = true)
    (h : files.write (d.markerPath key value) [] = .ok written) : d.Fits key value := by
  obtain ⟨hnamed, hup⟩ := marker_named key value
  cases hresolve : files.resolve .file (d.markerPath key value) with
  | error e =>
    rw [write, hresolve] at h
    cases h
  | ok target =>
    obtain ⟨hproper, husable⟩ := proper_of_resolve_join (by decide)
      (slash_not_mem_marker hexpressible) hnamed hup hresolve
    exact ⟨hexpressible, hproper, husable⟩

/-- All that a publication can come to. A property that cannot be expressed is refused before
anything is done. Another one is refused after the key was withdrawn, when no more than directories
have been made; or its record is added and its marker is written. -/
theorem publish_cases (d : MarkerDirectory) (key value : String) (s : Scene Published) :
    expressible key value = false ∧
      (∃ e, ((d.publish key value).runOn s).1 = .error e) ∧
      ((d.publish key value).runOn s).2 = s ∨
    expressible key value = true ∧
      (∃ e, ((d.publish key value).runOn s).1 = .error e) ∧
      (∃ files, ((retract key).runOn s).2.files.Extended files ∧
        ((d.publish key value).runOn s).2 = { ((retract key).runOn s).2 with files := files }) ∨
    d.Fits key value ∧
      ((d.publish key value).runOn s).1 = .ok () ∧
      ((d.publish key value).runOn s).2.state =
        s.state.filter (·.1 != key) ++ [(key, d.markerPath key value)] ∧
      ∃ made : Tree, made.write (d.markerPath key value) [] =
        .ok ((d.publish key value).runOn s).2.files := by
  unfold publish
  split
  · next hexpressible => exact .inl ⟨by simpa using hexpressible, ⟨_, rfl⟩, rfl⟩
  · next hexpressible =>
    have hexpressible : expressible key value = true := by simpa using hexpressible
    have hstate := retract_state key s
    refine .inr ?_
    rw [Act.runOn_bind]
    -- the steps that follow change no records before the last of them has succeeded
    generalize ((retract key).runOn s).2 = t at hstate
    rcases hmake : t.files.makeAllDirs d.dir with ⟨made, e | _⟩
    · rw [Act.runOn_bind, Act.runOn_alter hmake]
      exact .inl ⟨hexpressible, ⟨_, rfl⟩, made, makeAllDirs_extended hmake, rfl⟩
    · rw [Act.runOn_bind, Act.runOn_alter hmake]
      cases hwrite : made.write (d.markerPath key value) [] with
      | error e =>
        dsimp only
        rw [Act.runOn_bind, Act.runOn_change_error hwrite]
        exact .inl ⟨hexpressible, ⟨_, rfl⟩, made, makeAllDirs_extended hmake, rfl⟩
      | ok written =>
        dsimp only
        rw [Act.runOn_bind, Act.runOn_change_ok hwrite, ← hstate]
        exact .inr ⟨fits_of_write hexpressible hwrite, rfl, rfl, made, hwrite⟩

/-- What is recorded after a publication that was not refused. -/
theorem publish_ok_state (h : ((d.publish key value).runOn s).1 = .ok ()) :
    d.Fits key value ∧ ((d.publish key value).runOn s).2.state =
      s.state.filter (·.1 != key) ++ [(key, d.markerPath key value)] := by
  obtain ⟨-, ⟨e, herror⟩, -⟩ | ⟨-, ⟨e, herror⟩, -⟩ | ⟨hfits, -, hstate, -⟩ :=
    d.publish_cases key value s
  · rw [herror] at h
    cases h
  · rw [herror] at h
    cases h
  · exact ⟨hfits, hstate⟩

/-- The marker is a file that is there after a publication that was not refused. -/
theorem publish_ok_read (h : ((d.publish key value).runOn s).1 = .ok ()) :
    ((d.publish key value).runOn s).2.files.read (d.markerPath key value) = .ok [] := by
  rcases d.publish_cases key value s with
    ⟨-, ⟨e, herror⟩, -⟩ | ⟨-, ⟨e, herror⟩, -⟩ | ⟨-, -, -, made, hwrite⟩
  · rw [herror] at h
    cases h
  · rw [herror] at h
    cases h
  · exact read_write hwrite

/-- What a refused publication leaves recorded. -/
theorem publish_refused_state (h : ((d.publish key value).runOn s).1 = .error e) :
    ((d.publish key value).runOn s).2.state =
      if expressible key value then s.state.filter (·.1 != key) else s.state := by
  obtain ⟨hexpressible, -, hsame⟩ | ⟨hexpressible, -, files, -, hwithdrawn⟩ | ⟨-, hok, -⟩ :=
    d.publish_cases key value s
  · rw [hexpressible, hsame]
    rfl
  · rw [hexpressible, hwithdrawn]
    exact retract_state key s
  · rw [hok] at h
    cases h

/-! ## What is recorded -/

/-- A publication leaves at most one record under a key, whether it was refused or not. -/
theorem publish_recorded (h : d.Recorded s.state) :
    d.Recorded ((d.publish key value).runOn s).2.state := by
  have hfiltered : d.Recorded (s.state.filter (·.1 != key)) := h.sublist List.filter_sublist
  obtain ⟨-, -, hsame⟩ | ⟨-, -, files, -, hwithdrawn⟩ | ⟨hfits, -, hstate, -⟩ :=
    d.publish_cases key value s
  · rw [hsame]
    exact h
  · rw [hwithdrawn]
    dsimp only
    rw [retract_state]
    exact hfiltered
  · rw [hstate]
    refine hfiltered.concat ?_ hfits
    intro r hr
    simpa using (List.mem_filter.1 hr).2

/-- To withdraw some keys takes records away and adds none. -/
theorem retractEach_sublist (records : Published) (s : Scene Published) :
    ((retractEach records).runOn s).2.state.Sublist s.state := by
  induction records generalizing s with
  | nil => exact .refl _
  | cons r records ih =>
    have hfirst : ((retract r.1).runOn s).2.state.Sublist s.state := by
      rw [retract_state]
      exact List.filter_sublist
    rw [retractEach_cons]
    exact (ih _).trans hfirst

/-! ## What is withdrawn -/

/-- The place is that of the marker that is recorded under a key. -/
def RecordedAt (d : MarkerDirectory) (s : Scene Published) (key : String) (p : Place) : Prop :=
  ∃ old q, (key, d.markerPath key old) ∈ s.state ∧ s.files.directory? d.dir = some q ∧
    p = q ++ [marker key old]

/-- To withdraw a key takes away the file or the link that is its marker, and nothing else. -/
theorem retract_entry_iff (h : d.Recorded s.state) (p : Place) {e : Entry} (hnode : e.node ≠ .dir) :
    ((retract key).runOn s).2.files.entry? p = some e ↔
      s.files.entry? p = some e ∧ ¬d.RecordedAt s key p := by
  obtain ⟨hnone, hsame⟩ | ⟨path, hmem, -, hfiles⟩ := retract_cases key s
  · rw [hsame]
    refine (and_iff_left ?_).symm
    intro hrecorded
    obtain ⟨old, q, hmem, -⟩ := hrecorded
    exact hnone _ hmem rfl
  · obtain ⟨value, hfits, hpath⟩ := h.paths _ hmem
    dsimp only at hfits hpath
    subst hpath
    have hplace : d.RecordedAt s key p ↔
        ∃ q, s.files.directory? d.dir = some q ∧ p = q ++ [marker key value] := by
      constructor
      · intro hrecorded
        obtain ⟨old, q, hmem', hq, hp⟩ := hrecorded
        rw [h.value_unique hmem hmem']
        exact ⟨q, hq, hp⟩
      · intro hthere
        obtain ⟨q, hq, hp⟩ := hthere
        exact ⟨value, q, hmem, hq, hp⟩
    have hslash := slash_not_mem_marker hfits.expressible
    rw [hplace, not_exists, hfiles, markerPath,
      entry?_removed_iff hslash hfits.proper hfits.usable p hnode]
    simp only [not_and]

theorem isDir_retract (key : String) {p : Place} (hdir : s.files.isDir p = true) :
    ((retract key).runOn s).2.files.isDir p = true := by
  obtain ⟨-, hsame⟩ | ⟨path, -, -, hfiles⟩ := retract_cases key s
  · rw [hsame]
    exact hdir
  · rw [hfiles]
    exact isDir_removed hdir path

/-- What a refused publication leaves of the files. -/
theorem publish_refused_files (hrecorded : d.Recorded s.state)
    (h : ((d.publish key value).runOn s).1 = .error e) :
    (∀ p entry, entry.node ≠ .dir →
      (((d.publish key value).runOn s).2.files.entry? p = some entry ↔
        s.files.entry? p = some entry ∧
          ¬(expressible key value = true ∧ d.RecordedAt s key p))) ∧
    (∀ p, s.files.isDir p = true → ((d.publish key value).runOn s).2.files.isDir p = true) ∧
    (expressible key value = false → ((d.publish key value).runOn s).2.files = s.files) := by
  obtain ⟨hexpressible, -, hsame⟩ | ⟨hexpressible, -, files, hextended, hwithdrawn⟩ | ⟨-, hok, -⟩ :=
    d.publish_cases key value s
  · rw [hsame, hexpressible]
    exact ⟨fun p entry _ => by simp, fun p hdir => hdir, fun _ => rfl⟩
  · rw [hwithdrawn, hexpressible]
    refine ⟨?_, ?_, nofun⟩
    · intro p entry hnode
      rw [and_iff_right rfl, ← retract_entry_iff hrecorded p hnode]
      constructor
      · intro hentry
        rcases hextended.dirs p entry hentry with hbefore | ⟨-, hdir⟩
        · exact hbefore
        · exact absurd hdir hnode
      · exact hextended.within p entry
    · intro p hdir
      exact hextended.within.isDir (isDir_retract key hdir)
  · rw [hok] at h
    cases h

end MarkerDirectory

/-! ## All owners of a directory -/

/-- The place is that of the marker which an owner loses when publishing under a key is refused:
there is none unless the property could be expressed. -/
def MarkerDirectory.Lost (d : MarkerDirectory) (before : Scene SharedMarkers) (o key value : String)
    (p : Place) : Prop :=
  expressible key value = true ∧ ∃ old q, before.state.Holds d o key old ∧
    before.files.directory? d.dir = some q ∧ p = q ++ [marker key old]

/-- What an owner's refused publication leaves. -/
structure MarkerDirectory.Refused (d : MarkerDirectory) (o key value : String)
    (before after : Scene SharedMarkers) : Prop where
  others : ∀ o', o' ≠ o → after.state.recorded o' = before.state.recorded o'
  /-- The owner keeps its records, those under the key apart if the property could be expressed. -/
  own : after.state.recorded o =
    if expressible key value then (before.state.recorded o).filter (·.1 != key)
    else before.state.recorded o
  /-- All files and links stay as they are, but for the marker that is lost. -/
  files : ∀ p e, e.node ≠ .dir → (after.files.entry? p = some e ↔
    before.files.entry? p = some e ∧ ¬d.Lost before o key value p)
  /-- No directory goes; the marker directory may have been made. -/
  dirs : ∀ p, before.files.isDir p = true → after.files.isDir p = true
  unexpressed : expressible key value = false → after.files = before.files
  /-- All records and files are as before only if nothing was published under the key or the
  property could not be expressed. -/
  as_before_iff : ((∀ o', after.state.recorded o' = before.state.recorded o') ∧
      ∀ p e, e.node ≠ .dir → (after.files.entry? p = some e ↔ before.files.entry? p = some e)) ↔
    expressible key value = false ∨ ∀ old, ¬before.state.Holds d o key old

namespace MarkerStep

variable {d : MarkerDirectory} {s : Scene SharedMarkers} {o key value : String}
  {e : IntrospectError}

/-- A step leaves at most one record under a key, the path of a marker. -/
theorem act_recorded (x : MarkerStep) (h : ∀ o, d.Recorded (s.state.recorded o)) (o : String) :
    d.Recorded (((x.act d).runOn s).2.state.recorded o) := by
  by_cases ho : o = x.who
  · subst ho
    rw [recorded_act_self]
    have hseen : d.Recorded (x.seen s).state := h x.who
    cases x with
    | publish o key value => exact publish_recorded hseen
    | retract o key =>
      have hstate : (((retract o key).own d).runOn ((retract o key).seen s)).2.state =
          ((retract o key).seen s).state.filter (·.1 != key) := retract_state key _
      rw [hstate]
      exact hseen.sublist List.filter_sublist
    | drop o => exact hseen.sublist (retractEach_sublist _ _)
  · rw [recorded_act x s ho]
    exact h o

/-- After every run of owners that had published nothing. -/
theorem run_recorded (hnew : ∀ o, s.state.recorded o = []) (steps : List MarkerStep) (o : String) :
    d.Recorded (((run d steps).runOn s).2.state.recorded o) := by
  induction steps using List.reverseRecOn generalizing o with
  | nil =>
    have hnone : ((run d []).runOn s).2.state.recorded o = [] := hnew o
    rw [hnone]
    exact .nil d
  | append_singleton steps x ih =>
    rw [run_concat]
    exact act_recorded x ih o

theorem refused_own (h : (((publish o key value).act d).runOn s).1 = .error e) :
    (((publish o key value).act d).runOn s).2.state.recorded o =
      if expressible key value then (s.state.recorded o).filter (·.1 != key)
      else s.state.recorded o := by
  have hown := recorded_act_self (d := d) (publish o key value) s
  exact hown.trans (publish_refused_state (s := (publish o key value).seen s) h)

theorem refused_leaves (hrecorded : ∀ o, d.Recorded (s.state.recorded o))
    (h : (((publish o key value).act d).runOn s).1 = .error e) :
    d.Refused o key value s (((publish o key value).act d).runOn s).2 := by
  have hothers : ∀ o', o' ≠ o →
      (((publish o key value).act d).runOn s).2.state.recorded o' = s.state.recorded o' :=
    fun o' ho => recorded_act (publish o key value) s ho
  have hown := refused_own h
  obtain ⟨hentries, hdirs, hunexpressed⟩ :=
    publish_refused_files (s := (publish o key value).seen s) (hrecorded o) h
  have hfiles : ∀ p e, e.node ≠ .dir →
      ((((publish o key value).act d).runOn s).2.files.entry? p = some e ↔
        s.files.entry? p = some e ∧ ¬d.Lost s o key value p) := hentries
  refine ⟨hothers, hown, hfiles, hdirs, hunexpressed, ?_, ?_⟩
  · -- where nothing changed nothing was withdrawn, so nothing else stood under the key
    intro hsame
    cases hexpressible : expressible key value with
    | false => exact .inl rfl
    | true =>
      right
      intro old hold
      have hkept := hold
      rw [SharedMarkers.Holds, ← hsame.1 o, hown, if_pos hexpressible] at hkept
      simpa using (List.mem_filter.1 hkept).2
  · -- with no other value under the key there was nothing to withdraw
    intro hnone
    refine ⟨?_, ?_⟩
    · intro o'
      by_cases ho : o' = o
      · subst ho
        rw [hown]
        split
        · next hexpressible =>
          refine List.filter_eq_self.2 ?_
          intro r hr
          obtain ⟨old, -, hpath⟩ := (hrecorded o').paths r hr
          have hnone := hnone.resolve_left (by simp [hexpressible])
          have hne : r.1 ≠ key := by
            rintro rfl
            refine hnone old ?_
            rw [SharedMarkers.Holds, ← hpath]
            exact hr
          simpa using hne
        · rfl
      · exact hothers o' ho
    · intro p e hnode
      rw [hfiles p e hnode]
      refine and_iff_left ?_
      intro hlost
      obtain ⟨hexpressible, old, q, hold, -⟩ := hlost
      exact hnone.resolve_left (by simp [hexpressible]) old hold

end MarkerStep

/-- What a refused publication leaves, after any run of the owners of a directory, whatever files
there were before. -/
theorem refused_publish_leaves (d : MarkerDirectory) (s : Scene SharedMarkers)
    (hnew : ∀ o, s.state.recorded o = []) (steps : List MarkerStep) (o key value : String)
    (e : IntrospectError)
    (h : (((MarkerStep.publish o key value).act d).runOn
      ((MarkerStep.run d steps).runOn s).2).1 = .error e) :
    d.Refused o key value ((MarkerStep.run d steps).runOn s).2
      (((MarkerStep.publish o key value).act d).runOn
        ((MarkerStep.run d steps).runOn s).2).2 :=
  MarkerStep.refused_leaves (MarkerStep.run_recorded hnew steps) h

/-- Two owners hold the same property, beside a marker that none of them has made; then another
value is refused to one of them. -/
theorem refused_publish_leaves_shared_marker :
    let d : MarkerDirectory := { dir := Text.octets "/markers", procRoot := Text.octets "/proc" }
    let s : Scene SharedMarkers := { state := {}, files := { entries :=
      [⟨[Text.octets "markers"], .dir, 0o755, 0⟩,
        ⟨[Text.octets "markers", marker "l" "w"], .file [], 0o644, 0⟩] } }
    let steps : List MarkerStep := [.publish "a" "k" "v", .publish "b" "k" "v"]
    let t := ((MarkerStep.run d steps).runOn s).2
    (∀ o, s.state.recorded o = []) ∧
      (((MarkerStep.publish "a" "k" "a\x00b").act d).runOn t).1 = .error (.os .nulInPath) ∧
      d.Refused "a" "k" "a\x00b" t
        (((MarkerStep.publish "a" "k" "a\x00b").act d).runOn t).2 := by
  intro d s steps t
  have hnew : ∀ o, s.state.recorded o = [] := fun o => rfl
  have hanswer : (((MarkerStep.publish "a" "k" "a\x00b").act d).runOn
      ((MarkerStep.run d steps).runOn s).2).1 = .error (.os .nulInPath) := by decide +kernel
  exact ⟨hnew, hanswer, refused_publish_leaves d s hnew steps "a" "k" "a\x00b" _ hanswer⟩

/-- A value is lost when another one is refused under its key: no file can have the name of the
new marker, since it holds a zero octet. -/
theorem refused_publish_withdraws :
    let d : MarkerDirectory := { dir := Text.octets "/markers", procRoot := Text.octets "/proc" }
    let s : Scene SharedMarkers := { state := {} }
    let steps : List MarkerStep := [.publish "a" "k" "v"]
    let before := ((MarkerStep.run d steps).runOn s).2
    let refusal := ((MarkerStep.publish "a" "k" "a\x00b").act d).runOn before
    refusal.1 = .error (.os .nulInPath) ∧
      before.state.Holds d "a" "k" "v" ∧ d.IsMarker before.files (marker "k" "v") ∧
      ¬refusal.2.state.Holds d "a" "k" "v" ∧ ¬d.IsMarker refusal.2.files (marker "k" "v") := by
  intro d s steps before refusal
  have hanswer : (((MarkerStep.publish "a" "k" "a\x00b").act d).runOn
      ((MarkerStep.run d steps).runOn s).2).1 = .error (.os .nulInPath) := by decide +kernel
  have howners : ((MarkerStep.run d steps).runOn s).2.state.owners =
      [("a", [("k", d.markerPath "k" "v")])] := by decide +kernel
  have hplace : ((MarkerStep.run d steps).runOn s).2.files.directory? d.dir =
      some [Text.octets "markers"] := by decide +kernel
  have hentry : Tree.entry? ((MarkerStep.run d steps).runOn s).2.files
      ([Text.octets "markers"] ++ [marker "k" "v"]) =
        some ⟨[Text.octets "markers", marker "k" "v"], .file [], 0o644, 0⟩ := by decide +kernel
  have hleft : (((MarkerStep.publish "a" "k" "a\x00b").act d).runOn
      ((MarkerStep.run d steps).runOn s).2).2.state.owners = [("a", [])] := by decide +kernel
  have hdirectory : (((MarkerStep.publish "a" "k" "a\x00b").act d).runOn
      ((MarkerStep.run d steps).runOn s).2).2.files.entries =
        [⟨[Text.octets "markers"], .dir, 0o755, 0⟩] := by decide +kernel
  refine ⟨hanswer, ?_, ⟨equals_mem_marker "k" "v", _, _, hplace, hentry, by simp⟩, ?_, ?_⟩
  · simp [before, SharedMarkers.Holds, SharedMarkers.recorded, SharedMarkers.owner,
      Holdings.find, howners]
  · intro hholds
    obtain ⟨x, hx, -, hmem⟩ := SharedMarkers.exists_of_recorded hholds
    rw [hleft, List.mem_singleton] at hx
    rw [hx] at hmem
    cases hmem
  · intro hmarker
    obtain ⟨-, q, e, -, hentry', hnode⟩ := hmarker
    rw [ entry?, if_neg (by simp), hdirectory] at hentry'
    obtain rfl := List.mem_singleton.1 (List.mem_of_find?_eq_some hentry')
    exact hnode rfl

end SelfTrace
