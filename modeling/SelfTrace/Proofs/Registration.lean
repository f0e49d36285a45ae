import Mathlib.Data.List.Forall2
import Mathlib.Data.List.Nodup
import SelfTrace.Metrics.Registry
import SelfTrace.Proofs.MetricNames

/-!
# Registered agents

What a registry holds after some agents were registered, and what becomes of the next one. An agent
is known by its namespace and its name; the registry compares fingerprints of them.

* `Holds` — what is true of a registry that only agents were registered with;
* `registerMonitors_cases` — the next agent is accepted, or refused since it clashes with one that
  is registered; nothing else can happen to it;
* `clashes_iff` — without collisions of fingerprints only an agent itself clashes with it.
-/

namespace SelfTrace.Metrics

/-! ## Entries -/

/-- Monitored values that are registered for an agent in a sanitized namespace. -/
structure Entry where
  ns : String
  agent : String
  /-- The number of the values. -/
  number : Nat
deriving DecidableEq, Repr

namespace Entry

/-- What an entry is known by. -/
def pair (e : Entry) : String × String := (e.ns, e.agent)

/-- The source of an entry: its values by number, and a collector that may have exposed some. -/
def IsSource (e : Entry) (s : Source) : Prop :=
  ∃ series exported, s = .monitors e.number
    { Collector.fresh e.ns e.agent with series := series, exported := exported }

end Entry

/-- The fingerprints of an agent's metrics. -/
def metricPrints (p : String × String) : List UInt64 :=
  (Collector.fresh p.1 p.2).descriptors.map Descriptor.identity

/-- The fingerprint of an agent's collector. -/
def collectorPrint (p : String × String) : UInt64 := (metricPrints p).foldl (· + ·) 0

/-- An agent has a fingerprint in common with one of some others. -/
def Clashes (pairs : List (String × String)) (p : String × String) : Prop :=
  (∃ q ∈ pairs, ∃ i ∈ metricPrints p, i ∈ metricPrints q) ∨
    ∃ q ∈ pairs, collectorPrint p = collectorPrint q

/-- Different metrics of some agents have different fingerprints, and so have different agents. -/
def CollisionFree (pairs : List (String × String)) : Prop :=
  ∀ p ∈ pairs, ∀ q ∈ pairs,
    (∀ d ∈ (Collector.fresh p.1 p.2).descriptors, ∀ d' ∈ (Collector.fresh q.1 q.2).descriptors,
      d.identity = d'.identity → d.identityTexts = d'.identityTexts) ∧
    (collectorPrint p = collectorPrint q → p = q)

/-- Metrics of two agents with the same name and labels are metrics of one agent. -/
theorem pair_eq_of_identityTexts {p q : String × String} {d d' : Descriptor}
    (hd : d ∈ (Collector.fresh p.1 p.2).descriptors)
    (hd' : d' ∈ (Collector.fresh q.1 q.2).descriptors)
    (h : d.identityTexts = d'.identityTexts) : p = q := by
  simp only [Collector.fresh, Collector.descriptors, List.mem_cons, List.not_mem_nil,
    or_false] at hd hd'
  rcases hd with rfl | rfl
  · rcases hd' with rfl | rfl
    · exact Prod.ext_iff.2 (identityTexts_generator_inj h)
    · exact absurd h (identityTexts_generator_ne_tasks _ _ _ _)
  · rcases hd' with rfl | rfl
    · exact absurd h.symm (identityTexts_generator_ne_tasks _ _ _ _)
    · exact Prod.ext_iff.2 (identityTexts_tasks_inj h)

theorem clashes_of_mem {pairs : List (String × String)} {p : String × String} (h : p ∈ pairs) :
    Clashes pairs p :=
  .inr ⟨p, h, rfl⟩

/-- Without collisions only an agent itself clashes with it. -/
theorem clashes_iff {pairs : List (String × String)} {p : String × String}
    (hfree : CollisionFree (p :: pairs)) : Clashes pairs p ↔ p ∈ pairs := by
  constructor
  · rintro (⟨q, hq, i, hp, hi⟩ | ⟨q, hq, hsum⟩)
    · -- a common fingerprint is that of one metric, and a metric belongs to one agent
      obtain ⟨d, hd, rfl⟩ := List.mem_map.1 hp
      obtain ⟨d', hd', heq⟩ := List.mem_map.1 hi
      have htexts := (hfree p List.mem_cons_self q (List.mem_cons_of_mem p hq)).1
        d hd d' hd' heq.symm
      exact pair_eq_of_identityTexts hd hd' htexts ▸ hq
    · have heq := (hfree p List.mem_cons_self q (List.mem_cons_of_mem p hq)).2 hsum
      exact heq ▸ hq
  · exact clashes_of_mem

/-! ## What a registry holds -/

namespace Registry

/-- What the metrics of each name agree in is that of the metrics of agents. -/
def StandardDimensions (dimensions : List (String × UInt64)) : Prop :=
  ∀ known ∈ dimensions, ∃ d, Standard d ∧ known = (d.name, d.dimensions)

/-- A registry holds entries: one source for each in their order, and their metrics. -/
structure Holds (r : Registry) (entries : List Entry) : Prop where
  front : r.front = none
  labels : r.labels = []
  sources : List.Forall₂ Entry.IsSource entries r.sources
  identities : r.identities = (entries.map Entry.pair).flatMap metricPrints
  dimensions : StandardDimensions r.dimensions
  /-- No two entries are of the same agent in the same namespace. -/
  pairs : (entries.map Entry.pair).Nodup

theorem holds_empty : Holds {} [] where
  front := rfl
  labels := rfl
  sources := .nil
  identities := rfl
  dimensions _ hknown := nomatch hknown
  pairs := .nil

/-! ## Accepting descriptors -/

/-- The dimensions of an agent's metric agree with those of others. -/
theorem agreeing?_standard {r : Registry} (hr : StandardDimensions r.dimensions) {d : Descriptor}
    (hd : Standard d) : ∃ dimensions, StandardDimensions dimensions ∧
      r.agreeing? d = some { r with dimensions := dimensions } := by
  unfold agreeing?
  split
  next known hfind =>
    -- a name that is known is known from a metric of some agent
    have hname := List.find?_some hfind
    obtain ⟨d', hd', hknown⟩ := hr _ (List.mem_of_find?_eq_some hfind)
    cases hknown
    have heq := hd'.dimensions_eq hd (eq_of_beq hname)
    exact ⟨r.dimensions, hr, by simp [heq]⟩
  next hnone =>
    -- a new name brings the dimensions of this metric along
    refine ⟨_, ?_, rfl⟩
    intro known hknown
    rcases List.mem_append.1 hknown with hknown | hknown
    · exact hr known hknown
    · exact ⟨d, hd, List.mem_singleton.1 hknown⟩

/-- Different metrics of agents are refused as duplicates of others or not at all. -/
theorem accept_standard (ds : List Descriptor) :
    ∀ (r : Registry) (passed : List UInt64), StandardDimensions r.dimensions →
      (∀ d ∈ ds, Standard d) → (passed ++ ds.map Descriptor.identity).Nodup →
      ∃ dimensions, StandardDimensions dimensions ∧
        r.accept passed ds = ({ r with dimensions := dimensions },
          if ∃ d ∈ ds, d.identity ∈ r.identities then some .duplicate else none) := by
  induction ds with
  | nil =>
    intro r passed hr _ _
    exact ⟨r.dimensions, hr, by simp [accept]⟩
  | cons d ds ih =>
    intro r passed hr hds hdistinct
    have hrest : ∀ d' ∈ ds, Standard d' := fun d' h => hds d' (List.mem_cons_of_mem d h)
    unfold accept
    by_cases hmem : d.identity ∈ r.identities
    · exact ⟨r.dimensions, hr, by simp [hmem]⟩
    · obtain ⟨dimensions, hdimensions, hagreeing⟩ :=
        agreeing?_standard hr (hds d List.mem_cons_self)
      rw [List.map_cons, List.append_cons] at hdistinct
      have hpassed : d.identity ∉ passed := by
        intro hpassed
        have hfirst := hdistinct.of_append_left
        exact (List.nodup_append.1 hfirst).2.2 _ hpassed _ (List.mem_singleton_self _) rfl
      simp only [List.contains_iff_mem, hmem, hpassed, hagreeing, if_false, List.mem_cons,
        exists_eq_or_imp, false_or]
      exact ih { r with dimensions := dimensions } _ hdimensions hrest hdistinct

/-- A metric that is registered is refused at once. -/
theorem accept_of_mem {r : Registry} {d : Descriptor} {ds : List Descriptor}
    (h : d.identity ∈ r.identities) (passed : List UInt64) :
    r.accept passed (d :: ds) = (r, some .duplicate) := by
  simp [accept, h]

/-! ## Registering -/

variable {r : Registry} {entries : List Entry}

theorem sourcePrints {sources : List Source}
    (h : List.Forall₂ Entry.IsSource entries sources) :
    sources.map Source.identity = (entries.map Entry.pair).map collectorPrint := by
  induction h with
  | nil => rfl
  | cons hsource _ ih =>
    obtain ⟨series, exported, rfl⟩ := hsource
    rw [List.map_cons, ih]
    rfl

/-- A registry that holds entries holds them also with other dimensions of agents' metrics. -/
theorem Holds.with_dimensions (h : r.Holds entries)
    {dimensions : List (String × UInt64)} (hdimensions : StandardDimensions dimensions) :
    Holds { r with dimensions := dimensions } entries :=
  { h with dimensions := hdimensions }

/-- An agent clashes exactly if a comparison of the registry finds it: of its metrics with those
that are registered, or of its collector with the sources. -/
theorem Holds.clashes_iff_compared (h : r.Holds entries) (ns agent : String) (number : Nat) :
    Clashes (entries.map Entry.pair) (ns, agent) ↔
      (∃ d ∈ (Collector.fresh ns agent).descriptors, d.identity ∈ r.identities) ∨
        (Source.monitors number (Collector.fresh ns agent)).identity ∈
          r.sources.map Source.identity := by
  refine or_congr ?_ ?_
  · rw [h.identities]
    constructor
    · rintro ⟨q, hq, i, hi, hmem⟩
      obtain ⟨d, hd, rfl⟩ := List.mem_map.1 hi
      exact ⟨d, hd, List.mem_flatMap.2 ⟨q, hq, hmem⟩⟩
    · rintro ⟨d, hd, hmem⟩
      obtain ⟨q, hq, hmem⟩ := List.mem_flatMap.1 hmem
      exact ⟨q, hq, _, List.mem_map_of_mem hd, hmem⟩
  · rw [sourcePrints h.sources, List.mem_map]
    constructor
    · rintro ⟨q, hq, heq⟩
      exact ⟨q, hq, heq.symm⟩
    · rintro ⟨q, hq, heq⟩
      exact ⟨q, hq, heq.symm⟩

/-- An agent's values are refused as a duplicate exactly if the agent clashes with another. -/
theorem register_cases (h : r.Holds entries) (ns agent : String) (number : Nat) :
    ∃ dimensions, StandardDimensions dimensions ∧
      (Clashes (entries.map Entry.pair) (ns, agent) ∧
        r.register (.monitors number (Collector.fresh ns agent)) =
          ({ r with dimensions := dimensions }, .error .duplicate) ∨
      ¬ Clashes (entries.map Entry.pair) (ns, agent) ∧
        r.register (.monitors number (Collector.fresh ns agent)) =
          ({ r with
            dimensions := dimensions
            sources := r.sources ++ [.monitors number (Collector.fresh ns agent)]
            identities := r.identities ++ metricPrints (ns, agent) }, .ok ())) := by
  have hdistinct : ([] ++ (Collector.fresh ns agent).descriptors.map Descriptor.identity).Nodup :=
    List.nodup_cons.2
      ⟨mt List.mem_singleton.1 (identity_generator_ne_tasks ns agent), List.nodup_singleton _⟩
  obtain ⟨dimensions, hdimensions, haccept⟩ := accept_standard
    (Collector.fresh ns agent).descriptors r [] h.dimensions (Collector.fresh_standard ns agent)
    hdistinct
  have hclashes := h.clashes_iff_compared ns agent number
  refine ⟨dimensions, hdimensions, ?_⟩
  unfold register
  rw [Source.descriptors, haccept]
  by_cases hmetric : ∃ d ∈ (Collector.fresh ns agent).descriptors, d.identity ∈ r.identities
  · -- the metrics are compared first, and the sources are not looked at
    exact .inl ⟨hclashes.2 (.inl hmetric), by simp only [hmetric, if_true]⟩
  · by_cases hsource : (Source.monitors number (Collector.fresh ns agent)).identity ∈
        r.sources.map Source.identity
    · refine .inl ⟨hclashes.2 (.inr hsource), ?_⟩
      simp only [hmetric, if_false, List.contains_iff_mem, hsource, if_true]
    · refine .inr ⟨fun hclash => ?_, ?_⟩
      · rcases hclashes.1 hclash with hclash | hclash
        · exact hmetric hclash
        · exact hsource hclash
      · simp only [hmetric, if_false, List.contains_iff_mem, hsource]
        rfl

/-- A registry that holds entries holds one more after the registration of another agent. -/
theorem Holds.add (h : r.Holds entries) (e : Entry)
    (hfresh : e.pair ∉ entries.map Entry.pair) {dimensions : List (String × UInt64)}
    (hdimensions : StandardDimensions dimensions) :
    Holds { r with
      dimensions := dimensions
      sources := r.sources ++ [.monitors e.number (Collector.fresh e.ns e.agent)]
      identities := r.identities ++ metricPrints e.pair } (entries ++ [e]) where
  front := h.front
  labels := h.labels
  sources := List.rel_append h.sources (.cons ⟨[], 0, rfl⟩ .nil)
  identities := by simp [h.identities]
  dimensions := hdimensions
  pairs := by
    rw [List.map_append, List.map_singleton, ← List.concat_eq_append]
    exact h.pairs.concat hfresh

/-! ## Registering monitored values -/

theorem registerMonitors_of_blank (r : Registry) {ns : String} (h : Text.trimmed ns = "")
    (agent : String) (number : Nat) :
    r.registerMonitors ns agent number = (r, .error (.invalidNamespace ns)) := by
  rw [registerMonitors, (sanitizeText?_eq_none_iff ns).2 h]

/-- Values are refused as registered already, and nothing but dimensions may change, if the agent
clashes with one that is registered; otherwise they are registered. -/
theorem registerMonitors_cases (h : r.Holds entries)
    {ns clean : String} (hclean : sanitizeText? ns = some clean) (agent : String) (number : Nat) :
    let answer := (r.registerMonitors ns agent number).2
    let after := (r.registerMonitors ns agent number).1
    Clashes (entries.map Entry.pair) (clean, agent) ∧ answer = .error (.alreadyRegistered agent) ∧
        after.Holds entries ∧ after.sources = r.sources ∨
      ¬ Clashes (entries.map Entry.pair) (clean, agent) ∧ answer = .ok clean ∧
        after.Holds (entries ++ [⟨clean, agent, number⟩]) ∧
        after.sources = r.sources ++ [.monitors number (Collector.fresh clean agent)] := by
  intro answer after
  have hmake := make_of_sanitized ⟨ns, hclean⟩ agent
  obtain ⟨dimensions, hdimensions, ⟨hclash, hregister⟩ | ⟨hclash, hregister⟩⟩ :=
    register_cases h clean agent number
  · have hrun : r.registerMonitors ns agent number =
        ({ r with dimensions := dimensions }, .error (.alreadyRegistered agent)) := by
      simp only [registerMonitors, hclean, hmake, hregister]
    simp only [answer, after, hrun]
    exact .inl ⟨hclash, trivial, h.with_dimensions hdimensions, trivial⟩
  · have hrun : r.registerMonitors ns agent number =
        ({ r with
          dimensions := dimensions
          sources := r.sources ++ [.monitors number (Collector.fresh clean agent)]
          identities := r.identities ++ metricPrints (clean, agent) }, .ok clean) := by
      simp only [registerMonitors, hclean, hmake, hregister]
    simp only [answer, after, hrun]
    have hfresh : (clean, agent) ∉ entries.map Entry.pair := mt clashes_of_mem hclash
    exact .inr ⟨hclash, trivial, h.add ⟨clean, agent, number⟩ hfresh hdimensions, trivial⟩

/-- Values are refused and nothing changes for a scrape, or they become one more entry. -/
theorem registerMonitors_outcome (h : r.Holds entries)
    (ns agent : String) (number : Nat) :
    let answer := (r.registerMonitors ns agent number).2
    let after := (r.registerMonitors ns agent number).1
    (∃ e, answer = .error e) ∧ after.Holds entries ∧ after.sources = r.sources ∨
      ∃ clean, sanitizeText? ns = some clean ∧ answer = .ok clean ∧
        after.Holds (entries ++ [⟨clean, agent, number⟩]) ∧
        after.sources = r.sources ++ [.monitors number (Collector.fresh clean agent)] := by
  intro answer after
  cases hclean : sanitizeText? ns with
  | none =>
    have hrun := registerMonitors_of_blank r ((sanitizeText?_eq_none_iff ns).1 hclean) agent number
    simp only [answer, after, hrun]
    exact .inl ⟨⟨_, rfl⟩, h, trivial⟩
  | some clean =>
    rcases registerMonitors_cases h hclean agent number with
      ⟨-, hanswer, hholds, hsources⟩ | ⟨-, hanswer, hholds, hsources⟩
    · exact .inl ⟨⟨_, hanswer⟩, hholds, hsources⟩
    · exact .inr ⟨clean, rfl, hanswer, hholds, hsources⟩

/-- An agent that is registered is refused without a trace. -/
theorem registerMonitors_of_mem (h : r.Holds entries)
    {ns clean agent : String} (hclean : sanitizeText? ns = some clean)
    (hmem : (clean, agent) ∈ entries.map Entry.pair) (number : Nat) :
    r.registerMonitors ns agent number = (r, .error (.alreadyRegistered agent)) := by
  have hmake := make_of_sanitized ⟨ns, hclean⟩ agent
  have hidentity : (generatorDescriptor clean agent).identity ∈ r.identities := by
    rw [h.identities]
    exact List.mem_flatMap.2 ⟨_, hmem, List.mem_cons_self⟩
  have hregister : r.register (.monitors number (Collector.fresh clean agent)) =
      (r, .error .duplicate) := by
    unfold register
    rw [Source.descriptors, Collector.fresh, Collector.descriptors, accept_of_mem hidentity]
  simp only [registerMonitors, hclean, hmake, hregister]

/-! ## A registry among other state -/

variable {α σ : Type}

theorem changing_runOn (p : Part σ Registry) (f : Registry → Registry × α) (s : Scene σ) :
    (changing p f).runOn s =
      ((f (p.view s.state)).2, { s with state := p.put s.state (f (p.view s.state)).1 }) := rfl

/-- A registration changes the registry, and is written to the log if it succeeds. -/
theorem registerIn_runOn (p : Part σ Registry) (ns agent : String) (number : Nat) (s : Scene σ) :
    (registerIn p ns agent number).runOn s =
      match (p.view s.state).registerMonitors ns agent number with
      | (r, .ok clean) => (.ok (),
          { s with state := p.put s.state r, log := s.log ++ [registered clean agent] })
      | (r, .error e) => (.error e, { s with state := p.put s.state r }) := by
  rw [registerIn, Act.runOn_bind, changing_runOn]
  rcases (p.view s.state).registerMonitors ns agent number with ⟨r, e | clean⟩
  · rfl
  · rfl

theorem registerIn_answer (p : Part σ Registry) (ns agent : String) (number : Nat) (s : Scene σ) :
    ((registerIn p ns agent number).runOn s).1 =
      ((p.view s.state).registerMonitors ns agent number).2.map fun _ => () := by
  rw [registerIn_runOn]
  rcases (p.view s.state).registerMonitors ns agent number with ⟨r, e | clean⟩
  · rfl
  · rfl

end Registry

end SelfTrace.Metrics
