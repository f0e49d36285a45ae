import Mathlib.Data.List.Induction
import Mathlib.Data.List.Nodup
import SelfTrace.Metrics.Family

/-!
# Families that are merged

What `merged` keeps and what it puts in order. A `Point` is a sample with the name, help text and
kind of its family.

* `merged_points` — no point is lost or made by merging;
* `merged_orderly` — one family for each name, in order, none of them empty, each in order;
* `Orderly.eq_of_perm` — families in order are determined by their points, so what is merged does
  not depend on the order in which it came.
-/

namespace SelfTrace.Metrics

open List (Perm)

/-! ## The order of samples -/

namespace Sample

theorem le_iff (s t : Sample) :
    s.le t = true ↔ s.labels.length < t.labels.length ∨
      s.labels.length = t.labels.length ∧ Text.notAfter s.labelValues t.labelValues = true := by
  simp [le]

theorem le_total (s t : Sample) : (s.le t || t.le s) = true := by
  rw [Bool.or_eq_true, le_iff, le_iff]
  rcases Nat.lt_trichotomy s.labels.length t.labels.length with h | h | h
  · exact .inl (.inl h)
  · rcases Text.notAfter_total s.labelValues t.labelValues with hv | hv
    · exact .inl (.inr ⟨h, hv⟩)
    · exact .inr (.inr ⟨h.symm, hv⟩)
  · exact .inr (.inl h)

theorem le_trans (s t u : Sample) (hst : s.le t = true) (htu : t.le u = true) :
    s.le u = true := by
  rw [le_iff] at hst htu ⊢
  rcases hst with hst | ⟨hst, hv⟩
  · rcases htu with htu | ⟨htu, -⟩
    · exact .inl (Nat.lt_trans hst htu)
    · exact .inl (htu ▸ hst)
  · rcases htu with htu | ⟨htu, hv'⟩
    · exact .inl (hst ▸ htu)
    · exact .inr ⟨hst.trans htu, Text.notAfter_trans hv hv'⟩

theorem labelValues_eq_of_le {s t : Sample} (hst : s.le t = true) (hts : t.le s = true) :
    s.labelValues = t.labelValues := by
  rw [le_iff] at hst hts
  rcases hst with hst | ⟨hlength, hst⟩
  · rcases hts with hts | ⟨hts, -⟩ <;> omega
  · rcases hts with hts | ⟨-, hts⟩
    · omega
    · exact Text.notAfter_antisymm hst hts

end Sample

/-! ## Points -/

/-- A sample, and what it is a sample of. -/
structure Point where
  name : String
  help : String
  kind : Kind
  sample : Sample
deriving DecidableEq, Repr

namespace Family

/-- The samples of a family as points. -/
def points (f : Family) : List Point := f.samples.map fun s => ⟨f.name, f.help, f.kind, s⟩

theorem mem_points {f : Family} {p : Point} :
    p ∈ f.points ↔ p.name = f.name ∧ p.help = f.help ∧ p.kind = f.kind ∧ p.sample ∈ f.samples := by
  constructor
  · intro h
    obtain ⟨s, hs, rfl⟩ := List.mem_map.1 h
    exact ⟨rfl, rfl, rfl, hs⟩
  · rintro ⟨hname, hhelp, hkind, hs⟩
    refine List.mem_map.2 ⟨p.sample, hs, ?_⟩
    rw [← hname, ← hhelp, ← hkind]

theorem points_samples (f : Family) : f.points.map Point.sample = f.samples := by
  simp [points, Function.comp_def]

/-- A family that is not empty has a point. -/
theorem exists_point {f : Family} (h : f.samples ≠ []) : ∃ p ∈ f.points, p.name = f.name := by
  obtain ⟨s, hs⟩ := List.exists_mem_of_ne_nil _ h
  exact ⟨_, List.mem_map_of_mem hs, rfl⟩

end Family

/-- Points of one name agree in help text and kind. -/
def Uniform (ps : List Point) : Prop :=
  ∀ p ∈ ps, ∀ q ∈ ps, p.name = q.name → p.help = q.help ∧ p.kind = q.kind

theorem Uniform.mono {ps qs : List Point} (h : Uniform qs) (hsub : ps ⊆ qs) : Uniform ps :=
  fun p hp q hq => h p (hsub hp) q (hsub hq)

/-! ## Merging -/

/-- A family with the samples of another, if that has its name. -/
def Family.extended (f g : Family) : Family :=
  if g.name == f.name then { g with samples := g.samples ++ f.samples } else g

theorem Family.extended_name (f g : Family) : (f.extended g).name = g.name := by
  unfold extended
  split <;> rfl

theorem Family.extended_of_ne {f g : Family} (h : g.name ≠ f.name) : f.extended g = g := by
  simp [extended, h]

theorem Family.extended_points {f g : Family} (hname : g.name = f.name) (hhelp : g.help = f.help)
    (hkind : g.kind = f.kind) : (f.extended g).points = g.points ++ f.points := by
  simp [extended, points, hname, hhelp, hkind]

/-- Where one family has the name of `f`, extending them all adds the points of `f`. -/
theorem extended_points_perm {f : Family} {gs : List Family}
    (hnames : (gs.map Family.name).Nodup) (hmem : f.name ∈ gs.map Family.name)
    (hagree : ∀ g ∈ gs, g.name = f.name → g.help = f.help ∧ g.kind = f.kind) :
    ((gs.map f.extended).flatMap Family.points).Perm (gs.flatMap Family.points ++ f.points) := by
  induction gs with
  | nil => cases hmem
  | cons g gs ih =>
    rw [List.map_cons, List.nodup_cons] at hnames
    rw [List.map_cons, List.flatMap_cons, List.flatMap_cons, List.append_assoc]
    by_cases hname : g.name = f.name
    · -- the others have other names and stay as they are
      have hrest : gs.map f.extended = gs := by
        refine (List.map_congr_left ?_).trans (List.map_id gs)
        intro h hh
        refine Family.extended_of_ne fun heq => hnames.1 ?_
        rw [hname, ← heq]
        exact List.mem_map_of_mem hh
      obtain ⟨hhelp, hkind⟩ := hagree g List.mem_cons_self hname
      rw [hrest, Family.extended_points hname hhelp hkind, List.append_assoc]
      exact List.perm_append_comm.append_left g.points
    · have hmem' : f.name ∈ gs.map Family.name := by
        rcases List.mem_cons.1 hmem with heq | hmem
        · exact absurd heq.symm hname
        · exact hmem
      rw [Family.extended_of_ne hname]
      exact (ih hnames.2 hmem' fun h hh => hagree h (List.mem_cons_of_mem g hh)).append_left _

/-- The families that were gathered from some: one for each name, none empty, and all points. -/
structure Gathered (gs fs : List Family) : Prop where
  names : (gs.map Family.name).Nodup
  filled : ∀ g ∈ gs, g.samples ≠ []
  points : (gs.flatMap Family.points).Perm (fs.flatMap Family.points)

theorem Gathered.add {gs fs : List Family} {f : Family} (h : Gathered gs fs)
    (huniform : Uniform ((fs ++ [f]).flatMap Family.points)) :
    Gathered (addFamily gs f) (fs ++ [f]) := by
  rw [List.flatMap_append, List.flatMap_singleton] at huniform
  unfold addFamily
  split
  next hempty =>
    -- an empty family is left out, and has no points
    have hpoints : f.points = [] := by
      rw [List.isEmpty_iff] at hempty
      simp [Family.points, hempty]
    refine ⟨h.names, h.filled, ?_⟩
    rw [List.flatMap_append, List.flatMap_singleton, hpoints, List.append_nil]
    exact h.points
  next hfilled =>
  rw [List.isEmpty_iff] at hfilled
  split
  next hany =>
    -- the family of this name has a point that came from `fs`, and `f` has one too
    have hagree : ∀ g ∈ gs, g.name = f.name → g.help = f.help ∧ g.kind = f.kind := by
      intro g hg hname
      obtain ⟨p, hp, hpname⟩ := Family.exists_point (h.filled g hg)
      obtain ⟨q, hq, hqname⟩ := Family.exists_point hfilled
      have hpfs : p ∈ fs.flatMap Family.points :=
        h.points.mem_iff.1 (List.mem_flatMap.2 ⟨g, hg, hp⟩)
      have hpq := huniform p (List.mem_append_left _ hpfs) q (List.mem_append_right _ hq)
        (by rw [hpname, hqname, hname])
      rw [Family.mem_points] at hp hq
      rw [← hp.2.1, ← hp.2.2.1, ← hq.2.1, ← hq.2.2.1]
      exact hpq
    have hmem : f.name ∈ gs.map Family.name := by
      obtain ⟨g, hg, hname⟩ := List.any_eq_true.1 hany
      exact List.mem_map.2 ⟨g, hg, eq_of_beq hname⟩
    refine ⟨?_, ?_, ?_⟩
    · have hsame : (gs.map f.extended).map Family.name = gs.map Family.name := by
        rw [List.map_map]
        exact List.map_congr_left fun g _ => f.extended_name g
      exact hsame ▸ h.names
    · intro _ hmap
      obtain ⟨g, hg, rfl⟩ := List.mem_map.1 hmap
      split
      · exact fun heq => hfilled (List.append_eq_nil_iff.1 heq).2
      · exact h.filled g hg
    · rw [List.flatMap_append, List.flatMap_singleton]
      exact (extended_points_perm h.names hmem hagree).trans (h.points.append_right _)
  next hnone =>
    -- no family of this name yet, so that names stay distinct
    have hfresh : f.name ∉ gs.map Family.name := by
      intro hmem
      obtain ⟨g, hg, hname⟩ := List.mem_map.1 hmem
      exact hnone (List.any_eq_true.2 ⟨g, hg, beq_iff_eq.2 hname⟩)
    refine ⟨?_, ?_, ?_⟩
    · rw [List.map_append, List.nodup_append]
      refine ⟨h.names, List.nodup_singleton _, ?_⟩
      rintro _ hname _ hf rfl
      rw [List.map_singleton, List.mem_singleton] at hf
      exact hfresh (hf ▸ hname)
    · intro g hg
      rcases List.mem_append.1 hg with hg | hg
      · exact h.filled g hg
      · exact List.mem_singleton.1 hg ▸ hfilled
    · rw [List.flatMap_append, List.flatMap_append]
      exact h.points.append_right _

theorem gathered (fs : List Family) (huniform : Uniform (fs.flatMap Family.points)) :
    Gathered (fs.foldl addFamily []) fs := by
  induction fs using List.reverseRecOn with
  | nil => exact ⟨List.nodup_nil, by simp, .refl _⟩
  | append_singleton fs f ih =>
    have hfirst : fs.flatMap Family.points ⊆ (fs ++ [f]).flatMap Family.points := by
      rw [List.flatMap_append]
      exact List.subset_append_left _ _
    rw [List.foldl_append, List.foldl_cons, List.foldl_nil]
    exact (ih (huniform.mono hfirst)).add huniform

/-! ## Families in order -/

/-- One family for each name, in the order of the names, none empty and each in order. -/
structure Orderly (fs : List Family) : Prop where
  names : (fs.map Family.name).Nodup
  order : fs.Pairwise fun f g => f.name ≤ g.name
  filled : ∀ f ∈ fs, f.samples ≠ []
  sorted : ∀ f ∈ fs, f.samples.Pairwise fun s t => s.le t = true

/-- A family with its samples in order. -/
def Family.inOrder (f : Family) : Family := { f with samples := f.samples.mergeSort Sample.le }

theorem Family.inOrder_points (f : Family) : (f.inOrder.points).Perm f.points :=
  (List.mergeSort_perm f.samples Sample.le).map _

theorem inOrder_flatMap_points (fs : List Family) :
    ((fs.map Family.inOrder).flatMap Family.points).Perm (fs.flatMap Family.points) := by
  induction fs with
  | nil => exact .refl _
  | cons f fs ih => exact f.inOrder_points.append ih

/-- No point is lost or made by merging. -/
theorem merged_points (fs : List Family) (huniform : Uniform (fs.flatMap Family.points)) :
    ((merged fs).flatMap Family.points).Perm (fs.flatMap Family.points) :=
  (inOrder_flatMap_points _).trans
    (((List.mergeSort_perm _ _).flatMap_right _).trans (gathered fs huniform).points)

theorem merged_orderly (fs : List Family) (huniform : Uniform (fs.flatMap Family.points)) :
    Orderly (merged fs) := by
  have h := gathered fs huniform
  have hperm := List.mergeSort_perm (fs.foldl addFamily []) fun f g => f.name ≤ g.name
  have hnames : (merged fs).map Family.name =
      ((fs.foldl addFamily []).mergeSort fun f g => f.name ≤ g.name).map Family.name := by
    rw [merged, List.map_map]
    rfl
  refine ⟨?_, ?_, ?_, ?_⟩
  · rw [hnames]
    exact (hperm.map _).nodup_iff.2 h.names
  · refine List.Pairwise.map _ (fun f g hfg => hfg) ?_
    refine (List.pairwise_mergeSort ?_ ?_ _).imp of_decide_eq_true
    · intro f g k hfg hgk
      exact decide_eq_true (String.le_trans (of_decide_eq_true hfg) (of_decide_eq_true hgk))
    · intro f g
      rw [Bool.or_eq_true, decide_eq_true_iff, decide_eq_true_iff]
      exact String.le_total f.name g.name
  · intro f hf
    obtain ⟨g, hg, rfl⟩ := List.mem_map.1 hf
    intro hempty
    have hsort : (g.samples.mergeSort Sample.le).Perm g.samples := List.mergeSort_perm _ _
    rw [show g.samples.mergeSort Sample.le = [] from hempty] at hsort
    exact h.filled g (hperm.mem_iff.1 hg) hsort.nil_eq.symm
  · intro f hf
    obtain ⟨g, hg, rfl⟩ := List.mem_map.1 hf
    exact List.pairwise_mergeSort Sample.le_trans Sample.le_total g.samples

/-! ## Families in order are determined by their points -/

/-- A point is known by its name and the values of its labels. -/
def Keyed (ps : List Point) : Prop :=
  ∀ p ∈ ps, ∀ q ∈ ps, p.name = q.name → p.sample.labelValues = q.sample.labelValues → p = q

theorem Keyed.mono {ps qs : List Point} (h : Keyed qs) (hsub : ps ⊆ qs) : Keyed ps :=
  fun p hp q hq => h p (hsub hp) q (hsub hq)

namespace Orderly

variable {f g : Family} {fs gs : List Family}

theorem tail (h : Orderly (f :: fs)) : Orderly fs where
  names := (List.nodup_cons.1 h.names).2
  order := (List.pairwise_cons.1 h.order).2
  filled g hg := h.filled g (List.mem_cons_of_mem f hg)
  sorted g hg := h.sorted g (List.mem_cons_of_mem f hg)

/-- The first family has the first name. -/
theorem name_le (h : Orderly (f :: fs)) {p : Point} (hp : p ∈ (f :: fs).flatMap Family.points) :
    f.name ≤ p.name := by
  obtain ⟨g, hg, hp⟩ := List.mem_flatMap.1 hp
  rw [(Family.mem_points.1 hp).1]
  rcases List.mem_cons.1 hg with rfl | hg
  · exact String.le_refl _
  · exact (List.pairwise_cons.1 h.order).1 g hg

/-- The points of the other families have other names. -/
theorem name_ne (h : Orderly (f :: fs)) {p : Point} (hp : p ∈ fs.flatMap Family.points) :
    p.name ≠ f.name := by
  obtain ⟨g, hg, hp⟩ := List.mem_flatMap.1 hp
  rw [(Family.mem_points.1 hp).1]
  intro heq
  have hfresh := (List.nodup_cons.1 h.names).1
  exact hfresh (heq ▸ List.mem_map_of_mem hg)

theorem filter_head (h : Orderly (f :: fs)) :
    ((f :: fs).flatMap Family.points).filter (·.name == f.name) = f.points := by
  have hself : f.points.filter (·.name == f.name) = f.points := by
    rw [List.filter_eq_self]
    intro p hp
    exact beq_iff_eq.2 (Family.mem_points.1 hp).1
  have hothers : (fs.flatMap Family.points).filter (·.name == f.name) = [] := by
    rw [List.filter_eq_nil_iff]
    intro p hp heq
    exact h.name_ne hp (eq_of_beq heq)
  rw [List.flatMap_cons, List.filter_append, hself, hothers, List.append_nil]

theorem filter_tail (h : Orderly (f :: fs)) :
    ((f :: fs).flatMap Family.points).filter (·.name != f.name) = fs.flatMap Family.points := by
  have hself : f.points.filter (·.name != f.name) = [] := by
    rw [List.filter_eq_nil_iff]
    intro p hp hne
    exact bne_iff_ne.1 hne (Family.mem_points.1 hp).1
  have hothers : (fs.flatMap Family.points).filter (·.name != f.name) =
      fs.flatMap Family.points := by
    rw [List.filter_eq_self]
    intro p hp
    exact bne_iff_ne.2 (h.name_ne hp)
  rw [List.flatMap_cons, List.filter_append, hself, hothers, List.nil_append]

/-- The first families of the same points have one name. -/
theorem head_name_le (hf : Orderly (f :: fs)) (hg : Orderly (g :: gs))
    (h : ((f :: fs).flatMap Family.points).Perm ((g :: gs).flatMap Family.points)) :
    f.name ≤ g.name := by
  obtain ⟨p, hp, hname⟩ := Family.exists_point (hg.filled g List.mem_cons_self)
  have hmem := h.mem_iff.2 (List.mem_flatMap.2 ⟨g, List.mem_cons_self, hp⟩)
  exact hname ▸ hf.name_le hmem

/-- A family in order is determined by its points. -/
theorem head_eq (hf : Orderly (f :: fs)) (hg : Orderly (g :: gs)) (hkeyed : Keyed f.points)
    (h : f.points.Perm g.points) : f = g := by
  obtain ⟨p, hp, -⟩ := Family.exists_point (hf.filled f List.mem_cons_self)
  have hpf := Family.mem_points.1 hp
  have hpg := Family.mem_points.1 (h.mem_iff.1 hp)
  have hsamples : f.samples = g.samples := by
    refine Perm.eq_of_pairwise ?_ (hf.sorted f List.mem_cons_self)
      (hg.sorted g List.mem_cons_self) ?_
    · intro s t hs ht hst hts
      have hps : (⟨f.name, f.help, f.kind, s⟩ : Point) ∈ f.points := List.mem_map_of_mem hs
      have hpt : (⟨g.name, g.help, g.kind, t⟩ : Point) ∈ f.points :=
        h.mem_iff.2 (List.mem_map_of_mem ht)
      have hname : f.name = g.name := hpf.1.symm.trans hpg.1
      exact congrArg Point.sample
        (hkeyed _ hps _ hpt hname (Sample.labelValues_eq_of_le hst hts))
    · have hmap := h.map Point.sample
      rwa [f.points_samples, g.points_samples] at hmap
  cases f
  cases g
  simp only [Family.mk.injEq]
  exact ⟨hpf.1.symm.trans hpg.1, hpf.2.1.symm.trans hpg.2.1, hpf.2.2.1.symm.trans hpg.2.2.1,
    hsamples⟩

theorem eq_of_perm (hf : Orderly fs) (hg : Orderly gs)
    (hkeyed : Keyed (fs.flatMap Family.points))
    (h : (fs.flatMap Family.points).Perm (gs.flatMap Family.points)) : fs = gs := by
  induction fs generalizing gs with
  | nil =>
    cases gs with
    | nil => rfl
    | cons g gs =>
      -- a family is never empty, so it has a point that the other side lacks
      obtain ⟨p, hp, -⟩ := Family.exists_point (hg.filled g List.mem_cons_self)
      exact absurd (h.mem_iff.2 (List.mem_flatMap.2 ⟨g, List.mem_cons_self, hp⟩)) (by simp)
  | cons f fs ih =>
    cases gs with
    | nil =>
      obtain ⟨p, hp, -⟩ := Family.exists_point (hf.filled f List.mem_cons_self)
      exact absurd (h.mem_iff.1 (List.mem_flatMap.2 ⟨f, List.mem_cons_self, hp⟩)) (by simp)
    | cons g gs =>
      -- the points of the first name are those of the first family, on both sides
      have hname : f.name = g.name :=
        String.le_antisymm (head_name_le hf hg h) (head_name_le hg hf h.symm)
      have hhead : f.points.Perm g.points := by
        have hfilter := h.filter (·.name == f.name)
        rwa [hf.filter_head, hname, hg.filter_head] at hfilter
      have htail : (fs.flatMap Family.points).Perm (gs.flatMap Family.points) := by
        have hfilter := h.filter (·.name != f.name)
        rwa [hf.filter_tail, hname, hg.filter_tail] at hfilter
      rw [List.flatMap_cons] at hkeyed
      have heq : f = g := head_eq hf hg (hkeyed.mono (List.subset_append_left _ _)) hhead
      have hrest : fs = gs :=
        ih hf.tail hg.tail (hkeyed.mono (List.subset_append_right _ _)) htail
      rw [heq, hrest]

end Orderly

end SelfTrace.Metrics
