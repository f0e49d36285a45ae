import SelfTrace.Proofs.Merging
import SelfTrace.Proofs.Registration

/-!
# What a scrape shows

A scrape of a registry that holds entries, told by the points that it shows.

* `scrape_readings` — two points for each entry and no others, in orderly families;
* `scrape_points` — counters that were behind the live values are brought up to them;
* `scrape_congr` — nothing but the values of the entries matters.
-/

namespace SelfTrace.Metrics

open List (Perm)

/-! ## Points of entries -/

namespace Entry

/-- The point that names the generator of an entry. -/
def info (e : Entry) (generator : String) : Point :=
  ⟨generatorName e.ns, "Workload generator currently in use", .gauge,
    ⟨[("agent", e.agent), ("generator", generator)], 1⟩⟩

/-- The point that counts the sender tasks of an entry. -/
def total (e : Entry) (tasks : Nat) : Point :=
  ⟨tasksName e.ns, "Total number of sender tasks created", .counter,
    ⟨[("agent", e.agent)], tasks⟩⟩

/-- The points of an entry with monitored values. -/
def points (look : Nat → Monitors) (e : Entry) : List Point :=
  [e.info (look e.number).generatorName, e.total (look e.number).senderTasks.toNat]

end Entry

/-- The points of entries with the values of their counters. -/
def readings (look : Nat → Monitors) (rows : List (Entry × Nat)) : List Point :=
  rows.flatMap fun row => [row.1.info (look row.1.number).generatorName, row.1.total row.2]

theorem mem_readings {look : Nat → Monitors} {rows : List (Entry × Nat)} {p : Point} :
    p ∈ readings look rows ↔ ∃ row ∈ rows,
      p = row.1.info (look row.1.number).generatorName ∨ p = row.1.total row.2 := by
  simp [readings]

/-- The points of one name are gauges or counters, each with its help text. -/
theorem uniform_readings (look : Nat → Monitors) (rows : List (Entry × Nat)) :
    Uniform (readings look rows) := by
  intro p hp q hq hname
  obtain ⟨row, -, rfl | rfl⟩ := mem_readings.1 hp
  · obtain ⟨row', -, rfl | rfl⟩ := mem_readings.1 hq
    · exact ⟨rfl, rfl⟩
    · exact absurd hname (generator_name_ne_tasks_name _ _)
  · obtain ⟨row', -, rfl | rfl⟩ := mem_readings.1 hq
    · exact absurd hname.symm (generator_name_ne_tasks_name _ _)
    · exact ⟨rfl, rfl⟩

theorem row_eq {rows : List (Entry × Nat)} (hpairs : (rows.map fun row => row.1.pair).Nodup)
    {row row' : Entry × Nat} (h : row ∈ rows) (h' : row' ∈ rows) (hns : row.1.ns = row'.1.ns)
    (hagent : row.1.agent = row'.1.agent) : row = row' :=
  List.inj_on_of_nodup_map hpairs h h' (Prod.ext hns hagent)

/-- Where no two entries are of the same agent, a name and the agent's label tell the point. -/
theorem point_eq {look : Nat → Monitors} {rows : List (Entry × Nat)}
    (hpairs : (rows.map fun row => row.1.pair).Nodup) {p q : Point}
    (hp : p ∈ readings look rows) (hq : q ∈ readings look rows) (hname : p.name = q.name)
    (hagent : p.sample.labelValues.head? = q.sample.labelValues.head?) : p = q := by
  obtain ⟨row, hrow, rfl | rfl⟩ := mem_readings.1 hp
  · obtain ⟨row', hrow', rfl | rfl⟩ := mem_readings.1 hq
    · have heq := row_eq hpairs hrow hrow' ((generatorName_inj _ _).1 hname)
        (Option.some.inj hagent)
      rw [heq]
    · exact absurd hname (generator_name_ne_tasks_name _ _)
  · obtain ⟨row', hrow', rfl | rfl⟩ := mem_readings.1 hq
    · exact absurd hname.symm (generator_name_ne_tasks_name _ _)
    · have heq := row_eq hpairs hrow hrow' ((tasksName_inj _ _).1 hname) (Option.some.inj hagent)
      rw [heq]

theorem keyed_readings {look : Nat → Monitors} {rows : List (Entry × Nat)}
    (hpairs : (rows.map fun row => row.1.pair).Nodup) : Keyed (readings look rows) := by
  intro p hp q hq hname hvalues
  exact point_eq hpairs hp hq hname (congrArg List.head? hvalues)

/-! ## One source -/

/-- A counter that is behind a live value is brought up to it. -/
theorem Collector.update_exported {c : Collector} {m : Monitors} (h : c.exported ≤ m.senderTasks) :
    (c.update m).exported = m.senderTasks := by
  have hnamed : (c.nameGenerator m.generatorName).exported = c.exported := rfl
  rw [update, countTasks, hnamed]
  split
  next => rw [UInt64.add_comm, UInt64.sub_add_cancel]
  next hnot => exact UInt64.le_antisymm h (UInt64.not_lt.1 hnot)

/-- What the counter of a source comes to in a scrape. -/
def Source.counted (look : Nat → Monitors) : Source → Nat
  | .monitors n c => (c.update (look n)).exported.toNat
  | .counter _ value => value

theorem Entry.IsSource.collect {e : Entry} {s : Source} (h : e.IsSource s)
    (look : Nat → Monitors) :
    e.IsSource (s.collect look).1 ∧ (s.collect look).2.flatMap Family.points =
      [e.info (look e.number).generatorName, e.total (s.counted look)] := by
  obtain ⟨series, exported, rfl⟩ := h
  simp only [Source.collect, Collector.collect, Source.counted]
  rw [Collector.update_eq]
  refine ⟨⟨_, _, rfl⟩, ?_⟩
  simp only [Collector.families, Collector.fresh, List.map_cons, List.map_nil, generator_labels,
    tasks_labels]
  rfl

/-- The live values in a scene are not behind what sources have exposed of them. -/
def Behind (look : Nat → Monitors) (sources : List Source) : Prop :=
  ∀ n c, Source.monitors n c ∈ sources → c.exported ≤ (look n).senderTasks

/-! ## All sources -/

namespace Registry

variable {r : Registry} {entries : List Entry}

theorem collectAll_eq (look : Nat → Monitors) (sources : List Source) :
    collectAll look sources =
      (sources.map fun s => (s.collect look).1, sources.flatMap fun s => (s.collect look).2) := by
  induction sources with
  | nil => rfl
  | cons s sources ih => simp [collectAll, ih]

theorem collectAll_points {sources : List Source}
    (h : List.Forall₂ Entry.IsSource entries sources) (look : Nat → Monitors) :
    List.Forall₂ Entry.IsSource entries (collectAll look sources).1 ∧
      (collectAll look sources).2.flatMap Family.points =
        readings look (entries.zip (sources.map (Source.counted look))) := by
  rw [collectAll_eq]
  induction h with
  | nil => exact ⟨.nil, rfl⟩
  | cons hsource _ ih =>
    obtain ⟨hnext, hpoints⟩ := hsource.collect look
    refine ⟨.cons hnext ih.1, ?_⟩
    simp only [List.flatMap_cons, List.flatMap_append, hpoints, ih.2]
    rfl

/-- A registry that holds entries adds nothing to names and labels. -/
theorem Holds.scrape_eq (h : r.Holds entries) (look : Nat → Monitors) :
    r.scrape look = ({ r with sources := (collectAll look r.sources).1 },
      merged (collectAll look r.sources).2) := by
  have hadorned : ∀ f, r.adorned f = f := by
    intro f
    simp [adorned, h.front, h.labels]
  have hmap : (merged (collectAll look r.sources).2).map r.adorned =
      merged (collectAll look r.sources).2 :=
    (List.map_congr_left fun f _ => hadorned f).trans (List.map_id _)
  unfold scrape
  exact Prod.ext rfl hmap

theorem Holds.scrape (h : r.Holds entries)
    (look : Nat → Monitors) : (r.scrape look).1.Holds entries := by
  rw [h.scrape_eq]
  exact { h with sources := (collectAll_points h.sources look).1 }

/-- The entries of a registry with what their counters come to in a scrape. -/
def rows (r : Registry) (entries : List Entry) (look : Nat → Monitors) : List (Entry × Nat) :=
  entries.zip (r.sources.map (Source.counted look))

theorem Holds.rows_entries (h : r.Holds entries)
    (look : Nat → Monitors) : (r.rows entries look).map Prod.fst = entries := by
  have hlength : entries.length = (r.sources.map (Source.counted look)).length := by
    rw [List.length_map, h.sources.length_eq]
  exact List.map_fst_zip (Nat.le_of_eq hlength)

theorem Holds.rows_pairs (h : r.Holds entries)
    (look : Nat → Monitors) : ((r.rows entries look).map fun row => row.1.pair).Nodup := by
  have hpairs := h.pairs
  rw [← h.rows_entries look, List.map_map] at hpairs
  exact hpairs

/-- A scrape shows two points for each entry and no others, in orderly families. -/
theorem Holds.scrape_readings (h : r.Holds entries) (look : Nat → Monitors) :
    ((r.scrape look).2.flatMap Family.points).Perm (readings look (r.rows entries look)) ∧
      Orderly (r.scrape look).2 := by
  have hpoints := (collectAll_points h.sources look).2
  have huniform : Uniform ((collectAll look r.sources).2.flatMap Family.points) := by
    rw [hpoints]
    exact uniform_readings look _
  rw [h.scrape_eq]
  refine ⟨?_, merged_orderly _ huniform⟩
  have hperm := merged_points _ huniform
  rw [hpoints] at hperm
  exact hperm

/-- Each entry is shown with the generator that is live. -/
theorem Holds.info_mem (h : r.Holds entries)
    (look : Nat → Monitors) {e : Entry} (he : e ∈ entries) :
    e.info (look e.number).generatorName ∈ (r.scrape look).2.flatMap Family.points := by
  rw [← h.rows_entries look] at he
  obtain ⟨row, hrow, rfl⟩ := List.mem_map.1 he
  exact (h.scrape_readings look).1.mem_iff.2 (mem_readings.2 ⟨row, hrow, .inl rfl⟩)

/-- No entry is shown with another generator. -/
theorem Holds.generator_eq (h : r.Holds entries)
    {look : Nat → Monitors} {e : Entry} (he : e ∈ entries) {g : String}
    (hmem : e.info g ∈ (r.scrape look).2.flatMap Family.points) :
    g = (look e.number).generatorName := by
  obtain ⟨row, hrow, heq | heq⟩ := mem_readings.1 ((h.scrape_readings look).1.mem_iff.1 hmem)
  · -- the point tells namespace and agent, which only one entry has
    simp only [Entry.info, Point.mk.injEq, generatorName_inj, Sample.mk.injEq, List.cons.injEq,
      Prod.mk.injEq, true_and, and_true] at heq
    obtain ⟨hns, hagent, hg⟩ := heq
    have hrow' : row.1 ∈ entries := h.rows_entries look ▸ List.mem_map_of_mem hrow
    have hsame : e = row.1 := List.inj_on_of_nodup_map h.pairs he hrow' (Prod.ext hns hagent)
    rw [hsame]
    exact hg
  · -- a counter is no gauge
    cases congrArg Point.kind heq

/-! ## Counters that are not ahead -/

/-- Counters that are not ahead of the live values show these in a scrape. -/
theorem zip_counted {sources : List Source}
    (h : List.Forall₂ Entry.IsSource entries sources) {look : Nat → Monitors}
    (hbehind : Behind look sources) :
    entries.zip (sources.map (Source.counted look)) =
      entries.map fun e => (e, (look e.number).senderTasks.toNat) := by
  induction h with
  | nil => rfl
  | cons hsource _ ih =>
    obtain ⟨series, exported, rfl⟩ := hsource
    rw [List.map_cons, List.zip_cons_cons, List.map_cons, ih]
    · rw [Source.counted, Collector.update_exported (hbehind _ _ List.mem_cons_self)]
    · intro n c hmem
      exact hbehind n c (List.mem_cons_of_mem _ hmem)

theorem readings_live (look : Nat → Monitors) (entries : List Entry) :
    readings look (entries.map fun e => (e, (look e.number).senderTasks.toNat)) =
      entries.flatMap (Entry.points look) := by
  rw [readings, List.flatMap_map]
  rfl

/-- A scrape shows the live values of the entries, if no counter is ahead of them. -/
theorem Holds.scrape_points (h : r.Holds entries)
    {look : Nat → Monitors} (hbehind : Behind look r.sources) :
    ((r.scrape look).2.flatMap Family.points).Perm (entries.flatMap (Entry.points look)) := by
  have hreadings := (h.scrape_readings look).1
  rwa [rows, zip_counted h.sources hbehind, readings_live] at hreadings

/-- A scrape brings the counters up to the live values and not further. -/
theorem Holds.behind_scrape (h : r.Holds entries)
    {look : Nat → Monitors} (hbehind : Behind look r.sources) :
    Behind look (r.scrape look).1.sources := by
  rw [h.scrape_eq, collectAll_eq]
  intro n c hmem
  obtain ⟨s, hs, heq⟩ := List.mem_map.1 hmem
  cases s with
  | monitors m d =>
    -- after the scrape the counter is the live value
    cases heq
    exact UInt64.le_of_eq (Collector.update_exported (hbehind n d hs))
  | counter d value => cases heq

/-! ## What a scrape depends on -/

theorem collectAll_congr {sources : List Source}
    (h : List.Forall₂ Entry.IsSource entries sources) {look look' : Nat → Monitors}
    (hlook : ∀ e ∈ entries, look e.number = look' e.number) :
    collectAll look sources = collectAll look' sources := by
  induction h with
  | nil => rfl
  | @cons e _ _ _ hsource _ ih =>
    obtain ⟨series, exported, rfl⟩ := hsource
    have hself := hlook e List.mem_cons_self
    have hrest := ih fun e' he' => hlook e' (List.mem_cons_of_mem _ he')
    simp only [collectAll, Source.collect, hself, hrest]

/-- Nothing but the values of the entries matters to a scrape. -/
theorem Holds.scrape_congr (h : r.Holds entries)
    {look look' : Nat → Monitors} (hlook : ∀ e ∈ entries, look e.number = look' e.number) :
    (r.scrape look).2 = (r.scrape look').2 := by
  rw [h.scrape_eq, h.scrape_eq, collectAll_congr h.sources hlook]

/-- Two registries whose entries have the same values show the same, in whatever order these were
registered and however often they were scraped before. -/
theorem Holds.scrape_eq_of_perm {r r' : Registry} {entries entries' : List Entry}
    (h : r.Holds entries) (h' : r'.Holds entries') {look look' : Nat → Monitors}
    (hbehind : Behind look r.sources) (hbehind' : Behind look' r'.sources)
    (hperm : (entries.map fun e => (e.pair, look e.number)).Perm
      (entries'.map fun e => (e.pair, look' e.number))) :
    (r.scrape look).2 = (r'.scrape look').2 := by
  have hpoints : ∀ (look : Nat → Monitors) (entries : List Entry),
      entries.flatMap (Entry.points look) =
        (entries.map fun e => (e.pair, look e.number)).flatMap fun row =>
          Entry.points (fun _ => row.2) ⟨row.1.1, row.1.2, 0⟩ := by
    intro look entries
    rw [List.flatMap_map]
    rfl
  -- orderly families are determined by their points, and the points by the entries' values
  obtain ⟨hreadings, hordered⟩ := h.scrape_readings look
  refine hordered.eq_of_perm (h'.scrape_readings look').2 ?_ ?_
  · exact (keyed_readings (h.rows_pairs look)).mono fun p => hreadings.mem_iff.1
  · refine (h.scrape_points hbehind).trans (Perm.trans ?_ (h'.scrape_points hbehind').symm)
    rw [hpoints look, hpoints look']
    exact hperm.flatMap_right _

end Registry

end SelfTrace.Metrics
