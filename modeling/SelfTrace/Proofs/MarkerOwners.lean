import Mathlib.Data.List.Induction
import Mathlib.Data.List.Infix
import Mathlib.Data.List.Pairwise
import SelfTrace.Introspection.SharedMarkers
import SelfTrace.Proofs.Markers

/-!
# Owners of one marker directory

Introspectors that share a directory publish and withdraw properties and come to their end, in any
order, each of its own.

* `MarkerStep` — what an owner does;
* `AllTidy` — the markers in the directory are what the owners have recorded;
* `MarkerStep.act_leads` — a step keeps the directory tidy, if no two owners hold the same after it;
* `markers_kept` — what holds after every run.
-/

namespace SelfTrace

open Files Files.Tree MarkerDirectory

/-! ## Owners -/

namespace SharedMarkers

/-- What an owner has recorded as published. -/
def recorded (m : SharedMarkers) (o : String) : Published := (owner o).view m

theorem recorded_put_self (m : SharedMarkers) (o : String) (published : Published) :
    recorded ((owner o).put m published) o = published := by
  simp [recorded, owner, Holdings.find]

theorem recorded_put_ne (m : SharedMarkers) {o other : String} (h : other ≠ o)
    (published : Published) :
    recorded ((owner o).put m published) other = m.recorded other := by
  simp only [recorded, owner, Holdings.find_cons_of_ne h, Holdings.find_without_of_ne h]

/-- What is recorded of an owner stands in its list. -/
theorem exists_of_recorded {m : SharedMarkers} {o : String} {r : String × Path}
    (h : r ∈ m.recorded o) : ∃ x ∈ m.owners, x.1 = o ∧ r ∈ x.2 := by
  simp only [recorded, owner, Holdings.find] at h
  cases hfound : m.owners.find? (·.1 == o) with
  | none =>
    rw [hfound] at h
    cases h
  | some x =>
    rw [hfound] at h
    exact ⟨x, List.mem_of_find?_eq_some hfound, by simpa using List.find?_some hfound, h⟩

/-- An owner holds a value under a key: it has published it and not withdrawn it. -/
def Holds (d : MarkerDirectory) (m : SharedMarkers) (o key value : String) : Prop :=
  (key, d.markerPath key value) ∈ m.recorded o

/-- No two owners hold the same property. -/
def Apart (d : MarkerDirectory) (m : SharedMarkers) : Prop :=
  ∀ o o' key value, m.Holds d o key value → m.Holds d o' key value → o = o'

/-- No two owners hold the same if no record stands in the lists of two. -/
theorem apart_of_pairwise (d : MarkerDirectory) {m : SharedMarkers}
    (h : m.owners.Pairwise fun x y => ∀ r ∈ x.2, r ∉ y.2) : m.Apart d := by
  intro o o' key value hholds hholds'
  obtain ⟨x, hx, rfl, hmem⟩ := exists_of_recorded hholds
  obtain ⟨y, hy, rfl, hmem'⟩ := exists_of_recorded hholds'
  by_contra hne
  have : Std.Symm fun x y : String × Published => ∀ r ∈ x.2, r ∉ y.2 :=
    ⟨fun _ _ hxy r hr hr' => hxy r hr' hr⟩
  exact h.forall hx hy (fun heq => hne (congrArg Prod.fst heq)) _ hmem hmem'

end SharedMarkers

namespace MarkerDirectory

variable {d : MarkerDirectory} {m : SharedMarkers} {files : Tree}

/-- The name is that of a marker of another owner. -/
def OthersName (d : MarkerDirectory) (m : SharedMarkers) (o : String) (n : Bytes) : Prop :=
  ∃ o', o' ≠ o ∧ d.Names (m.recorded o') n

/-- The directory holds the markers of all owners, and nothing else that looks like a marker; each
of them is a file. Where there is no directory yet there will be no markers in it when it is
made. -/
structure AllTidy (d : MarkerDirectory) (m : SharedMarkers) (files : Tree) : Prop where
  keyed : ∀ o, ((m.recorded o).map (·.1)).Nodup
  recorded : ∀ o, ∀ r ∈ m.recorded o, ∃ value, d.Fits r.1 value ∧ r.2 = d.markerPath r.1 value
  markers : ∀ n, d.IsMarker files n ↔ ∃ o, d.Names (m.recorded o) n
  regular : ∀ q n e, files.directory? d.dir = some q → files.entry? (q ++ [n]) = some e →
    equals ∈ n → e.node ≠ .dir → ∃ content, e.node = .file content
  clear : files.directory? d.dir = none → ∀ made, files.makeAllDirs d.dir = (made, .ok ()) →
    ∀ n, ¬d.IsMarker made n

namespace AllTidy

theorem records (h : d.AllTidy m files) (o : String) : d.Recorded (m.recorded o) :=
  ⟨h.keyed o, h.recorded o⟩

theorem fits (h : d.AllTidy m files) {o key value : String} (hholds : m.Holds d o key value) :
    d.Fits key value :=
  (h.records o).fits hholds

/-- The names of others are none of one's own, if no two owners hold the same. -/
theorem not_othersName (h : d.AllTidy m files) {o key value : String} (hfits : d.Fits key value)
    (hapart : ∀ o', o' ≠ o → ¬m.Holds d o' key value) : ¬d.OthersName m o (marker key value) := by
  intro hothers
  obtain ⟨o', hne, key', value', hmem, hmarker⟩ := hothers
  obtain ⟨rfl, rfl⟩ := (marker_inj hfits.expressible (h.fits hmem).expressible).1 hmarker
  exact hapart o' hne hmem

/-- The directory is tidy for each owner. -/
theorem tidy (h : d.AllTidy m files) (hapart : m.Apart d) (o : String) :
    d.Tidy (d.OthersName m o) (m.recorded o) files where
  keyed := h.keyed o
  recorded := h.recorded o
  apart := by
    intro key value hmem
    refine h.not_othersName (h.fits hmem) ?_
    intro o' hne hother
    exact hne (hapart o' o key value hother hmem)
  markers := by
    intro n
    rw [h.markers]
    constructor
    · intro hmarker
      obtain ⟨o', hnames⟩ := hmarker
      by_cases ho : o' = o
      · exact .inr (ho ▸ hnames)
      · exact .inl ⟨o', ho, hnames⟩
    · intro hmarker
      rcases hmarker with ⟨o', -, hnames⟩ | hnames
      · exact ⟨o', hnames⟩
      · exact ⟨o, hnames⟩
  regular := h.regular
  clear := h.clear

/-- The directory is tidy for all when it is so for one and the others have done nothing. -/
theorem of_tidy (h : d.AllTidy m files) {o : String} {published : Published} {after : Tree}
    (htidy : d.Tidy (d.OthersName m o) published after) :
    d.AllTidy ((SharedMarkers.owner o).put m published) after where
  keyed := by
    intro o'
    -- what others have published stays, and the owner's is replaced
    by_cases ho : o' = o
    · rw [ho, SharedMarkers.recorded_put_self]
      exact htidy.keyed
    · rw [SharedMarkers.recorded_put_ne m ho]
      exact h.keyed o'
  recorded := by
    intro o'
    by_cases ho : o' = o
    · rw [ho, SharedMarkers.recorded_put_self]
      exact htidy.recorded
    · rw [SharedMarkers.recorded_put_ne m ho]
      exact h.recorded o'
  markers := by
    intro n
    rw [htidy.markers]
    constructor
    · intro hmarker
      rcases hmarker with ⟨o', hne, hnames⟩ | hnames
      · refine ⟨o', ?_⟩
        rw [SharedMarkers.recorded_put_ne m hne]
        exact hnames
      · refine ⟨o, ?_⟩
        rw [SharedMarkers.recorded_put_self]
        exact hnames
    · intro hmarker
      obtain ⟨o', hnames⟩ := hmarker
      by_cases ho : o' = o
      · rw [ho, SharedMarkers.recorded_put_self] at hnames
        exact .inr hnames
      · rw [SharedMarkers.recorded_put_ne m ho] at hnames
        exact .inl ⟨o', ho, hnames⟩
  regular := htidy.regular
  clear := htidy.clear

end AllTidy

end MarkerDirectory

/-! ## Steps -/

/-- Something that an owner does. -/
inductive MarkerStep where
  | publish (o key value : String)
  | retract (o key : String)
  | drop (o : String)
deriving DecidableEq, Repr

namespace MarkerStep

/-- Who does it. -/
def who : MarkerStep → String
  | .publish o _ _ => o
  | .retract o _ => o
  | .drop o => o

/-- What is done. -/
def own (d : MarkerDirectory) : MarkerStep → Act Published (Except IntrospectError Unit)
  | .publish _ key value => d.publish key value
  | .retract _ key => do
    MarkerDirectory.retract key
    return .ok ()
  | .drop _ => do
    retractAll
    return .ok ()

/-- Does a step. -/
def act (d : MarkerDirectory) (x : MarkerStep) : Act SharedMarkers (Except IntrospectError Unit) :=
  (x.own d).on (SharedMarkers.owner x.who)

/-- Does some steps, one after the other. -/
def run (d : MarkerDirectory) (steps : List MarkerStep) :
    Act SharedMarkers (List (Except IntrospectError Unit)) := steps.mapM (act d)

theorem run_concat (d : MarkerDirectory) (steps : List MarkerStep) (x : MarkerStep)
    (s : Scene SharedMarkers) :
    ((run d (steps ++ [x])).runOn s).2 = ((x.act d).runOn ((run d steps).runOn s).2).2 := by
  unfold run
  rw [List.mapM_append, List.mapM_cons, List.mapM_nil]
  rfl

variable {d : MarkerDirectory}

/-- What an owner records is recorded of it alone. -/
theorem recorded_act (x : MarkerStep) (s : Scene SharedMarkers) {o : String} (h : o ≠ x.who) :
    ((x.act d).runOn s).2.state.recorded o = s.state.recorded o :=
  SharedMarkers.recorded_put_ne s.state h _

/-- The scene as its owner sees it. -/
def seen (x : MarkerStep) (s : Scene SharedMarkers) : Scene Published :=
  ⟨s.state.recorded x.who, s.files, s.log, s.tokens, s.monitors⟩

theorem recorded_act_self (x : MarkerStep) (s : Scene SharedMarkers) :
    ((x.act d).runOn s).2.state.recorded x.who = ((x.own d).runOn (x.seen s)).2.state :=
  SharedMarkers.recorded_put_self s.state x.who _

/-- What a step makes of its owner's records. -/
def Records (d : MarkerDirectory) (before : Published) : MarkerStep →
    Except IntrospectError Unit → Published → Prop
  | .publish _ key value, answer, after => answer = .ok () → d.Fits key value ∧
    after = before.filter (·.1 != key) ++ [(key, d.markerPath key value)]
  | .retract _ key, _, after => after = before.filter (·.1 != key)
  | .drop _, _, after => after = []

/-- A step keeps the directory tidy, unless two owners hold the same after it. -/
theorem own_leads (x : MarkerStep) {others : Bytes → Prop} (s : Scene Published)
    (h : d.Tidy others s.state s.files) :
    (x.own d).Leads s fun answer t => d.Touched s.files t.files ∧
      Records d s.state x answer t.state ∧
      ((∀ key value, d.Fits key value → (key, d.markerPath key value) ∈ t.state →
        ¬others (marker key value)) → d.Tidy others t.state t.files) := by
  cases x with
  | publish o key value => exact publish_leads key value s h
  | retract o key =>
    refine (retract_leads key s h).bind ?_
    intro _ t hretracted
    obtain ⟨hstate, htidy, htouched⟩ := hretracted
    exact .pure ⟨htouched, hstate, fun _ => htidy⟩
  | drop o =>
    refine (retractAll_leads s h).bind ?_
    intro _ t hretracted
    obtain ⟨hstate, htidy, htouched⟩ := hretracted
    exact .pure ⟨htouched, hstate, fun _ => htidy⟩

theorem act_leads (x : MarkerStep) (s : Scene SharedMarkers) (h : d.AllTidy s.state s.files)
    (hapart : s.state.Apart d) :
    (x.act d).Leads s fun answer t => d.Touched s.files t.files ∧
      Records d (s.state.recorded x.who) x answer (t.state.recorded x.who) ∧
      (t.state.Apart d → d.AllTidy t.state t.files) := by
  have htidy := h.tidy hapart x.who
  obtain ⟨htouched, hrecords, hafter⟩ := x.own_leads (x.seen s) htidy
  refine ⟨htouched, ?_, ?_⟩
  · rw [recorded_act_self]
    exact hrecords
  · intro hapart'
    refine h.of_tidy (hafter ?_)
    intro key value hfits hmem
    refine h.not_othersName hfits ?_
    -- what another owner has recorded it has recorded before and after
    intro o' hne hother
    refine hne (hapart' o' x.who key value ?_ ?_)
    · rw [SharedMarkers.Holds, recorded_act x s hne]
      exact hother
    · rw [SharedMarkers.Holds, recorded_act_self]
      exact hmem

/-- Where no two owners hold the same, an owner may come to its end. -/
theorem apart_drop {s : Scene SharedMarkers} (h : d.AllTidy s.state s.files)
    (hapart : s.state.Apart d) (o : String) :
    (((drop o).act d).runOn s).2.state.Apart d := by
  have hnone : (((drop o).act d).runOn s).2.state.recorded o = [] :=
    ((drop o).act_leads s h hapart).2.1
  have hbefore : ∀ o' key value, (((drop o).act d).runOn s).2.state.Holds d o' key value →
      s.state.Holds d o' key value := by
    intro o' key value hholds
    by_cases ho : o' = o
    · rw [SharedMarkers.Holds, ho, hnone] at hholds
      cases hholds
    · rw [SharedMarkers.Holds, recorded_act (drop o) s ho] at hholds
      exact hholds
  intro o' o'' key value hholds hholds'
  exact hapart o' o'' key value (hbefore _ _ _ hholds) (hbefore _ _ _ hholds')

/-- When some owners come to their end, one after the other, the records of each go. -/
theorem run_drops (os : List String) {s : Scene SharedMarkers} (h : d.AllTidy s.state s.files)
    (hapart : s.state.Apart d) :
    (run d (os.map drop)).Leads s fun _ t => d.AllTidy t.state t.files ∧
      d.Touched s.files t.files ∧ (∀ o ∈ os, t.state.recorded o = []) ∧
      ∀ o, o ∉ os → t.state.recorded o = s.state.recorded o := by
  induction os generalizing s with
  | nil => exact ⟨h, .refl d s.files, nofun, fun _ _ => rfl⟩
  | cons o os ih =>
    obtain ⟨htouched, hnone, htidy⟩ := (drop o).act_leads s h hapart
    have hnone : (((drop o).act d).runOn s).2.state.recorded o = [] := hnone
    have hapart' := apart_drop h hapart o
    obtain ⟨htidy', htouched', hgone, hkept⟩ := ih (htidy hapart') hapart'
    have hrun : ((run d ((o :: os).map drop)).runOn s).2 =
        ((run d (os.map drop)).runOn (((drop o).act d).runOn s).2).2 := by
      rw [List.map_cons, run, List.mapM_cons]
      rfl
    rw [Act.Leads, hrun]
    refine ⟨htidy', htouched.trans htouched', ?_, ?_⟩
    · intro o' ho'
      by_cases hmem : o' ∈ os
      · exact hgone o' hmem
      · have ho : o' = o := (List.mem_cons.1 ho').resolve_right hmem
        rw [hkept o' hmem, ho, hnone]
    · intro o' ho'
      rw [List.mem_cons, not_or] at ho'
      rw [hkept o' ho'.2, recorded_act (drop o) s ho'.1]

/-- The end of all owners is the end of each, by name. -/
theorem run_retractAll (d : MarkerDirectory) (s : Scene SharedMarkers) :
    (SharedMarkers.retractAll.runOn s).2 =
      ((run d (((Holdings.byName s.state.owners).map (·.1)).map drop)).runOn s).2 := by
  have heach : ∀ (owners : List (String × Published)) (s : Scene SharedMarkers),
      ((do for r in owners do
        MarkerDirectory.retractAll.on (SharedMarkers.owner r.1) : Act SharedMarkers Unit).runOn
          s).2 = ((run d ((owners.map (·.1)).map drop)).runOn s).2 := by
    intro owners
    induction owners with
    | nil =>
      intro s
      rfl
    | cons x owners ih =>
      intro s
      have hnext := ih (((drop x.1).act d).runOn s).2
      rw [List.forIn_cons, List.map_cons, List.map_cons, run, List.mapM_cons]
      exact hnext
  exact heach (Holdings.byName s.state.owners) s

/-- An owner that is not known has recorded nothing. -/
theorem recorded_of_not_mem {m : SharedMarkers} {o : String}
    (h : o ∉ (Holdings.byName m.owners).map (·.1)) : m.recorded o = [] := by
  rw [List.eq_nil_iff_forall_not_mem]
  intro r hr
  obtain ⟨x, hx, hname, -⟩ := SharedMarkers.exists_of_recorded hr
  exact h (List.mem_map.2 ⟨x, List.mem_mergeSort.2 hx, hname⟩)

end MarkerStep

/-! ## Runs -/

/-- There are no markers in the directory, nor will there be any when it is made. -/
structure MarkerDirectory.Clear (d : MarkerDirectory) (files : Tree) : Prop where
  none : ∀ n, ¬d.IsMarker files n
  none_made : ∀ made, files.makeAllDirs d.dir = (made, .ok ()) → ∀ n, ¬d.IsMarker made n

/-- What holds between steps. -/
structure MarkerDirectory.Kept (d : MarkerDirectory) (s : Scene SharedMarkers) : Prop where
  /-- The markers in the directory are those of what the owners hold. -/
  markers : ∀ n, d.IsMarker s.files n ↔
    ∃ o key value, s.state.Holds d o key value ∧ n = marker key value
  /-- What an owner has recorded is what it holds. -/
  recorded : ∀ o, ∀ r ∈ s.state.recorded o,
    ∃ value, s.state.Holds d o r.1 value ∧ r.2 = d.markerPath r.1 value
  /-- An owner holds one value under a key. -/
  single : ∀ o key value value', s.state.Holds d o key value → s.state.Holds d o key value' →
    value = value'
  /-- After a property was published, its owner holds the value and no other under the key. -/
  published : ∀ o key value,
    (((MarkerStep.publish o key value).act d).runOn s).1 = .ok () → ∀ value',
      (((MarkerStep.publish o key value).act d).runOn s).2.state.Holds d o key value' ↔
        value' = value
  retracted : ∀ o key value,
    ¬(((MarkerStep.retract o key).act d).runOn s).2.state.Holds d o key value
  dropped : ∀ o key value, ¬(((MarkerStep.drop o).act d).runOn s).2.state.Holds d o key value
  /-- After the end of all owners there are no markers. -/
  ended : ∀ n, ¬d.IsMarker (SharedMarkers.retractAll.runOn s).2.files n
  /-- All that a step makes or removes is right in the directory, new directories apart. -/
  touched : ∀ x : MarkerStep, d.Touched s.files ((x.act d).runOn s).2.files
  touched_ended : d.Touched s.files (SharedMarkers.retractAll.runOn s).2.files

namespace MarkerDirectory.AllTidy

variable {d : MarkerDirectory} {m : SharedMarkers} {files : Tree}

/-- A directory without markers is tidy for owners that have published nothing. -/
theorem of_clear (hnew : ∀ o, m.recorded o = []) (hclear : d.Clear files) :
    d.AllTidy m files where
  keyed := by
    intro o
    rw [hnew o]
    exact List.nodup_nil
  recorded := by
    intro o r hr
    rw [hnew o] at hr
    cases hr
  markers := by
    intro n
    constructor
    · intro hmarker
      exact absurd hmarker (hclear.none n)
    · intro hnames
      obtain ⟨o, key, value, hmem, -⟩ := hnames
      rw [hnew o] at hmem
      cases hmem
  regular := by
    intro q n e hq hentry hequals hnode
    exact absurd ⟨hequals, q, e, hq, hentry, hnode⟩ (hclear.none n)
  clear := fun _ => hclear.none_made

/-- What is recorded is held. -/
theorem holds_of_recorded (h : d.AllTidy m files) {o : String} {r : String × Path}
    (hr : r ∈ m.recorded o) : ∃ value, m.Holds d o r.1 value ∧ r.2 = d.markerPath r.1 value := by
  obtain ⟨value, -, hpath⟩ := h.recorded o r hr
  refine ⟨value, ?_, hpath⟩
  rw [SharedMarkers.Holds, ← hpath]
  exact hr

end MarkerDirectory.AllTidy

namespace MarkerStep

variable {d : MarkerDirectory} {s : Scene SharedMarkers}

/-- What an owner holds after a property was published: under the key, the value alone. -/
theorem holds_publish_iff (h : d.AllTidy s.state s.files) (hapart : s.state.Apart d)
    {o key value : String} (hanswer : (((publish o key value).act d).runOn s).1 = .ok ())
    (value' : String) :
    (((publish o key value).act d).runOn s).2.state.Holds d o key value' ↔ value' = value := by
  obtain ⟨-, hrecords, -⟩ := (publish o key value).act_leads s h hapart
  obtain ⟨hfits, hstate⟩ := hrecords hanswer
  have hslash := (expressible_iff.1 hfits.expressible).1
  have hstate : (((publish o key value).act d).runOn s).2.state.recorded o =
      (s.state.recorded o).filter (·.1 != key) ++ [(key, d.markerPath key value)] := hstate
  rw [SharedMarkers.Holds, hstate, mem_concat_iff hslash]
  constructor
  · intro hmem
    rcases hmem with hbefore | ⟨-, hvalue⟩
    · -- what was recorded under the key before is gone
      have hne := (List.mem_filter.1 hbefore).2
      simp at hne
    · exact hvalue
  · intro hvalue
    exact .inr ⟨rfl, hvalue⟩

theorem not_holds_retract (h : d.AllTidy s.state s.files) (hapart : s.state.Apart d)
    (o key value : String) :
    ¬(((retract o key).act d).runOn s).2.state.Holds d o key value := by
  intro hholds
  obtain ⟨-, hrecords, -⟩ := (retract o key).act_leads s h hapart
  have hstate : (((retract o key).act d).runOn s).2.state.recorded o =
      (s.state.recorded o).filter (·.1 != key) := hrecords
  rw [SharedMarkers.Holds, hstate] at hholds
  simpa using (List.mem_filter.1 hholds).2

theorem not_holds_drop (h : d.AllTidy s.state s.files) (hapart : s.state.Apart d)
    (o key value : String) : ¬(((drop o).act d).runOn s).2.state.Holds d o key value := by
  intro hholds
  obtain ⟨-, hrecords, -⟩ := (drop o).act_leads s h hapart
  have hstate : (((drop o).act d).runOn s).2.state.recorded o = [] := hrecords
  rw [SharedMarkers.Holds, hstate] at hholds
  cases hholds

/-- The end of all owners leaves no markers. -/
theorem ended_leads (h : d.AllTidy s.state s.files) (hapart : s.state.Apart d) :
    SharedMarkers.retractAll.Leads s fun _ t =>
      (∀ n, ¬d.IsMarker t.files n) ∧ d.Touched s.files t.files := by
  obtain ⟨htidy, htouched, hgone, hkept⟩ :=
    run_drops ((Holdings.byName s.state.owners).map (·.1)) h hapart
  rw [Act.Leads, run_retractAll d s]
  refine ⟨?_, htouched⟩
  intro n hmarker
  obtain ⟨o, key, value, hmem, -⟩ := (htidy.markers n).1 hmarker
  by_cases ho : o ∈ (Holdings.byName s.state.owners).map (·.1)
  · rw [hgone o ho] at hmem
    cases hmem
  · rw [hkept o ho, recorded_of_not_mem ho] at hmem
    cases hmem

theorem run_tidy (hnew : ∀ o, s.state.recorded o = []) (hclear : d.Clear s.files)
    (steps : List MarkerStep)
    (hapart : ∀ before, before <+: steps → ((run d before).runOn s).2.state.Apart d) :
    d.AllTidy ((run d steps).runOn s).2.state ((run d steps).runOn s).2.files := by
  induction steps using List.reverseRecOn with
  | nil => exact .of_clear hnew hclear
  | append_singleton steps x ih =>
    have hbefore := ih fun before hle => hapart before (hle.trans (List.prefix_append _ _))
    have hapart' := hapart steps (List.prefix_append _ _)
    have hafter := hapart (steps ++ [x]) List.prefix_rfl
    rw [run_concat] at hafter ⊢
    exact (x.act_leads _ hbefore hapart').2.2 hafter

end MarkerStep

/-- Between all steps the directory holds the markers of what the owners hold, if no two of them
ever hold the same. -/
theorem markers_kept (d : MarkerDirectory) (s : Scene SharedMarkers)
    (hnew : ∀ o, s.state.recorded o = []) (hclear : d.Clear s.files) (steps : List MarkerStep)
    (hapart : ∀ before, before <+: steps →
      ((MarkerStep.run d before).runOn s).2.state.Apart d) :
    d.Kept ((MarkerStep.run d steps).runOn s).2 := by
  have htidy := MarkerStep.run_tidy hnew hclear steps hapart
  have hnow := hapart steps List.prefix_rfl
  obtain ⟨hended, htouched⟩ := MarkerStep.ended_leads htidy hnow
  constructor
  case markers =>
    intro n
    rw [htidy.markers]
    rfl
  case recorded => exact fun o r hr => htidy.holds_of_recorded hr
  case single => exact fun o key value value' => (htidy.tidy hnow o).value_unique
  case published => exact fun o key value hanswer => MarkerStep.holds_publish_iff htidy hnow hanswer
  case retracted => exact MarkerStep.not_holds_retract htidy hnow
  case dropped => exact MarkerStep.not_holds_drop htidy hnow
  case ended => exact hended
  case touched => exact fun x => (x.act_leads _ htidy hnow).1
  case touched_ended => exact htouched

/-- Two owners publish under one key; one of them publishes again, the other withdraws. A key that
cannot be part of a name is refused between. -/
theorem markers_kept_two_owners :
    let d : MarkerDirectory := { dir := Text.octets "/markers", procRoot := Text.octets "/proc" }
    let s : Scene SharedMarkers := { state := {} }
    let steps : List MarkerStep := [.publish "a" "k" "v", .publish "b" "k" "w",
      .publish "a" "k=" "v", .publish "a" "k" "v=w", .retract "b" "k"]
    let t := ((MarkerStep.run d steps).runOn s).2
    (∀ o, s.state.recorded o = []) ∧ d.Clear s.files ∧
      (∀ before, before <+: steps → ((MarkerStep.run d before).runOn s).2.state.Apart d) ∧
      d.Kept t ∧ ∀ n, d.IsMarker t.files n ↔ n = marker "k" "v=w" := by
  intro d s steps t
  have hnew : ∀ o, s.state.recorded o = [] := fun o => rfl
  have hclear : d.Clear s.files := by
    refine ⟨?_, ?_⟩
    · intro n hmarker
      obtain ⟨-, q, e, -, hentry, -⟩ := hmarker
      simp [s, entry?] at hentry
    · intro made hmade n hmarker
      have hentries : (s.files.makeAllDirs d.dir).1.entries =
          [⟨[Text.octets "markers"], .dir, 0o755, 0⟩] := by decide +kernel
      rw [hmade] at hentries
      dsimp only at hentries
      obtain ⟨-, q, e, -, hentry, hnode⟩ := hmarker
      obtain ⟨h, rfl⟩ : _ ∧ _ := by simpa [ entry?, hentries] using hentry
      exact hnode rfl
  have hpairwise : (steps.inits.all fun before =>
      ((MarkerStep.run d before).runOn s).2.state.owners.Pairwise
        fun x y => ∀ r ∈ x.2, r ∉ y.2) = true := by decide +kernel
  have hapart : ∀ before, before <+: steps →
      ((MarkerStep.run d before).runOn s).2.state.Apart d := by
    intro before hle
    have hbefore := List.all_eq_true.1 hpairwise before ((List.mem_inits before steps).2 hle)
    exact SharedMarkers.apart_of_pairwise d (of_decide_eq_true hbefore)
  have hkept := markers_kept d s hnew hclear steps hapart
  have howners : ((MarkerStep.run d steps).runOn s).2.state.owners =
      [("b", []), ("a", [("k", d.markerPath "k" "v=w")])] := by decide +kernel
  refine ⟨hnew, hclear, hapart, hkept, ?_⟩
  intro n
  rw [hkept.markers]
  constructor
  · intro hmarker
    obtain ⟨o, key, value, hholds, rfl⟩ := hmarker
    obtain ⟨x, hx, -, hmem⟩ := SharedMarkers.exists_of_recorded hholds
    have hrecord : key = "k" ∧ d.markerPath key value = d.markerPath "k" "v=w" := by
      rw [howners] at hx
      rcases List.mem_pair.1 hx with rfl | rfl
      · cases hmem
      · simpa using hmem
    obtain ⟨rfl, hpath⟩ := hrecord
    rw [(markerPath_inj (by decide)).1 hpath]
  · intro hn
    refine ⟨"a", "k", "v=w", ?_, hn⟩
    simp [SharedMarkers.Holds, SharedMarkers.recorded, SharedMarkers.owner, Holdings.find, howners]

end SelfTrace
