import SelfTrace.Proofs.Exposition
import SelfTrace.Proofs.Sharing

/-!
# What is exposed while values change

A scrape of a shared registry shows the live values of all entries, however steps and scrapes were
mixed before. The counters of the registry follow the live ones, which only grow.

* `Step.current_cases` — how a step can change monitored values;
* `after_behind` — no counter of the registry is ever ahead of the live value;
* `Shows` — what a scrape shows of entries;
* `scrape_shows_live` — every scrape after every run shows the live values.
-/

namespace SelfTrace

open Metrics

variable {σ : Type}

/-! ## Live values -/

/-- A step counts one task, names one generator or changes no monitored values. -/
theorem Step.current_cases (x : Step σ) (s : Scene (Shared σ)) (n : Nat) :
    x.act.Leads s fun _ t => t.current n = s.current n ∨
      x = .addTask n ∧ t.current n = (s.current n).addTask ∨
      ∃ g, x = .setGenerator n g ∧ t.current n = (s.current n).setGeneratorName g := by
  cases x with
  | create => exact .inl (Scene.current_of_new rfl n)
  | setGenerator number name =>
    rcases s.current_report number n (·.setGeneratorName name) with h | ⟨rfl, h⟩
    · exact .inl h
    · exact .inr (.inr ⟨name, rfl, h⟩)
  | addTask number =>
    rcases s.current_report number n Monitors.addTask with h | ⟨rfl, h⟩
    · exact .inl h
    · exact .inr (.inl ⟨rfl, h⟩)
  | register ns agent number =>
    refine (registerIn_leads ns agent number s).bind ?_
    rintro answer t ⟨-, hmonitors⟩
    exact .inl (by rw [Scene.current, Scene.current, ← hmonitors]; rfl)
  | scrape => exact .inl rfl
  | render => exact .inl rfl
  | start d c env maker =>
    refine (start_leads d c (c.resolvedAgentName env) maker s).bind ?_
    rintro a t ⟨-, hmonitors, -⟩
    exact .inl (Scene.current_of_new hmonitors n)
  | aside a => exact .inl rfl

/-! ## Counting -/

/-- The step counts a task of the values with a number. -/
def Step.addsTask (n : Nat) : Step σ → Bool
  | .addTask number => number == n
  | _ => false

/-- How many tasks some steps count of the values with a number. -/
def tasksAdded (n : Nat) (steps : List (Step σ)) : Nat := steps.countP (Step.addsTask n)

/-- Counts below two to the power of 53 are exposed as they are. -/
def exactLimit : Nat := 9007199254740992

theorem tasksAdded_append (n : Nat) (steps later : List (Step σ)) :
    tasksAdded n (steps ++ later) = tasksAdded n steps + tasksAdded n later :=
  List.countP_append

theorem tasksAdded_lt_of_append {n : Nat} {steps later : List (Step σ)}
    (h : tasksAdded n (steps ++ later) < exactLimit) : tasksAdded n steps < exactLimit := by
  rw [tasksAdded_append] at h
  omega

/-- Live values never count more tasks than were added. -/
theorem after_counted (s : Scene σ) (steps : List (Step σ)) (n : Nat) :
    ((s.after steps).current n).senderTasks.toNat ≤ tasksAdded n steps := by
  induction steps using List.reverseRecOn with
  | nil => exact Nat.le_refl 0
  | append_singleton steps x ih =>
    rw [s.after_concat, tasksAdded_append]
    rcases x.current_cases (s.after steps) n with h | ⟨rfl, h⟩ | ⟨g, -, h⟩
    · rw [h]
      omega
    · have hone : tasksAdded n [(Step.addTask n : Step σ)] = 1 := by
        simp [tasksAdded, Step.addsTask]
      -- where the count starts again it is smaller still
      have hadd : (((s.after steps).current n).addTask).senderTasks.toNat ≤
          ((s.after steps).current n).senderTasks.toNat + 1 := by
        simp only [Monitors.addTask, UInt64.toNat_add]
        exact Nat.mod_le _ _
      rw [h, hone]
      omega
    · rw [h]
      exact Nat.le_add_right_of_le ih

/-- No step takes a task away, as long as the tasks can be counted. -/
theorem tasks_le_concat (s : Scene σ) (steps : List (Step σ)) (x : Step σ) (n : Nat)
    (hbound : tasksAdded n steps < exactLimit) :
    ((s.after steps).current n).senderTasks ≤
      ((s.after (steps ++ [x])).current n).senderTasks := by
  rw [s.after_concat]
  rcases x.current_cases (s.after steps) n with h | ⟨rfl, h⟩ | ⟨g, -, h⟩
  · rw [h]
    exact UInt64.le_refl _
  · have hcounted := after_counted s steps n
    rw [h, UInt64.le_iff_toNat_le, Monitors.addTask, UInt64.toNat_add]
    -- the count is far from where it would start again
    have hsmall : ((s.after steps).current n).senderTasks.toNat + (1 : UInt64).toNat < 2 ^ 64 := by
      have hone : (1 : UInt64).toNat = 1 := rfl
      unfold exactLimit at hbound
      omega
    rw [Nat.mod_eq_of_lt hsmall]
    exact Nat.le_add_right _ _
  · rw [h]
    exact UInt64.le_refl _

theorem tasks_le_append (s : Scene σ) (steps later : List (Step σ)) (n : Nat)
    (hbound : tasksAdded n (steps ++ later) < exactLimit) :
    ((s.after steps).current n).senderTasks ≤
      ((s.after (steps ++ later)).current n).senderTasks := by
  induction later using List.reverseRecOn with
  | nil =>
    rw [List.append_nil]
    exact UInt64.le_refl _
  | append_singleton later x ih =>
    rw [← List.append_assoc] at hbound ⊢
    have hbefore := tasksAdded_lt_of_append hbound
    exact UInt64.le_trans (ih hbefore) (tasks_le_concat s (steps ++ later) x n hbefore)

/-! ## Counters of the registry -/

theorem Metrics.Behind.mono {look look' : Nat → Monitors} {sources : List Source}
    (h : Behind look sources) (hle : ∀ n, (look n).senderTasks ≤ (look' n).senderTasks) :
    Behind look' sources :=
  fun n c hmem => UInt64.le_trans (h n c hmem) (hle n)

theorem RegistryEffect.behind {r r' : Registry} {look : Nat → Monitors} {offers : List Offer}
    {entries : List Entry} (heffect : RegistryEffect r look offers r') (h : r.Holds entries)
    (hbehind : Behind look r.sources) : Behind look r'.sources := by
  cases heffect with
  | kept => exact hbehind
  | scraped => exact h.behind_scrape hbehind
  | offered o _ hoffered =>
    rcases hoffered.cases h with ⟨-, -, -, hsources⟩ | ⟨clean, -, -, -, -, hsources⟩
    · rw [hsources]
      exact hbehind
    · intro n c hmem
      rw [hsources] at hmem
      rcases List.mem_append.1 hmem with hmem | hmem
      · exact hbehind n c hmem
      · -- a new counter has exposed nothing yet
        cases List.mem_singleton.1 hmem
        exact UInt64.zero_le

/-- No counter of the registry is ahead of the live value, after every run. -/
theorem after_behind (s : Scene σ) (steps : List (Step σ))
    (hbound : ∀ n, tasksAdded n steps < exactLimit) :
    Behind (s.after steps).current (s.after steps).state.2.sources := by
  induction steps using List.reverseRecOn with
  | nil => exact fun n c hmem => nomatch hmem
  | append_singleton steps x ih =>
    have hbefore : ∀ n, tasksAdded n steps < exactLimit :=
      fun n => tasksAdded_lt_of_append (hbound n)
    have heffect := x.registryEffect (s.after steps)
    -- the step leaves the counters behind the values before it, which have only grown
    have hafter : Behind (s.after steps).current (s.after (steps ++ [x])).state.2.sources := by
      rw [s.after_concat]
      exact heffect.behind (after_holds s steps) (ih hbefore)
    exact hafter.mono fun n => tasks_le_concat s steps x n (hbefore n)

/-! ## Names and entries that stay -/

/-- A generator's name that is not live does not become so unless it is reported. -/
theorem generator_ne_append (s : Scene σ) (steps later : List (Step σ)) (n : Nat) (g : String)
    (hne : ((s.after steps).current n).generatorName ≠ g)
    (hlater : .setGenerator n g ∉ later) :
    ((s.after (steps ++ later)).current n).generatorName ≠ g := by
  induction later using List.reverseRecOn with
  | nil =>
    rw [List.append_nil]
    exact hne
  | append_singleton later x ih =>
    rw [List.mem_append, not_or] at hlater
    have hbefore := ih hlater.1
    rw [← List.append_assoc, s.after_concat]
    rcases x.current_cases (s.after (steps ++ later)) n with h | ⟨-, h⟩ | ⟨g', rfl, h⟩
    · rw [h]
      exact hbefore
    · rw [h]
      exact hbefore
    · rw [h]
      rintro rfl
      exact hlater.2 List.mem_cons_self

/-- What was registered stays registered. -/
theorem registrations_append (s : Scene σ) (steps later : List (Step σ)) :
    registrations (s.events steps) <+: registrations (s.events (steps ++ later)) := by
  induction later using List.reverseRecOn with
  | nil => simp
  | append_singleton later x ih =>
    rw [← List.append_assoc, s.events_concat, registrations_concat]
    exact ih.trans (List.prefix_append _ _)

/-! ## Scrapes -/

/-- A scrape shows entries with monitored values: two points for each and no others, no two entries
of one agent in one namespace, in orderly families. -/
structure Shows (fs : List Family) (entries : List Entry) (look : Nat → Monitors) : Prop where
  points : (fs.flatMap Family.points).Perm (entries.flatMap (Entry.points look))
  pairs : (entries.map Entry.pair).Nodup
  orderly : Orderly fs

theorem Shows.mem_iff {fs : List Family} {entries : List Entry} {look : Nat → Monitors}
    (h : Shows fs entries look) (p : Point) :
    p ∈ fs.flatMap Family.points ↔ ∃ e ∈ entries,
      p = e.info (look e.number).generatorName ∨ p = e.total (look e.number).senderTasks.toNat := by
  rw [h.points.mem_iff, List.mem_flatMap]
  simp [Entry.points]

/-- The families that are shown have valid names, if the namespaces were sanitized. -/
theorem Shows.named {fs : List Family} {entries : List Entry} {look : Nat → Monitors}
    (h : Shows fs entries look) (hentries : ∀ e ∈ entries, Sanitized e.ns) : ∀ f ∈ fs, f.Named := by
  -- what is asked of a family is asked of its points, of which there is at least one
  have hvalid : ∀ p ∈ fs.flatMap Family.points, validMetricName p.name.toList = true ∧
      ∀ l ∈ p.sample.labels, validLabelName l.1.toList = true := by
    have hagent : validLabelName "agent".toList = true := by decide
    have hgenerator : validLabelName "generator".toList = true := by decide
    intro p hp
    obtain ⟨e, he, rfl | rfl⟩ := (h.mem_iff p).1 hp
    · refine ⟨(hentries e he).validMetricName_append "_generator_info" (by decide), ?_⟩
      exact List.forall_mem_cons.2 ⟨hagent, List.forall_mem_singleton.2 hgenerator⟩
    · refine ⟨(hentries e he).validMetricName_append "_sender_tasks_total" (by decide), ?_⟩
      exact List.forall_mem_singleton.2 hagent
  intro f hf
  obtain ⟨p, hp, hname⟩ := Family.exists_point (h.orderly.filled f hf)
  refine ⟨hname ▸ (hvalid p (List.mem_flatMap.2 ⟨f, hf, hp⟩)).1, ?_⟩
  intro s hs
  exact (hvalid ⟨f.name, f.help, f.kind, s⟩
    (List.mem_flatMap.2 ⟨f, hf, List.mem_map_of_mem hs⟩)).2

/-- What is registered is registered in sanitized namespaces. -/
theorem registrations_sanitized (events : List (Event σ)) :
    ∀ e ∈ registrations events, Sanitized e.ns := by
  intro e he
  obtain ⟨o, -, he⟩ := List.mem_flatMap.1 he
  rw [Offer.entries] at he
  split at he
  next =>
    obtain ⟨clean, hclean, rfl⟩ := Option.map_eq_some_iff.1 (Option.mem_toList.1 he)
    exact ⟨o.ns, hclean⟩
  next => cases he

theorem after_shows (s : Scene σ) (steps : List (Step σ))
    (hbound : ∀ n, tasksAdded n steps < exactLimit) :
    Shows (s.after steps).scraped (registrations (s.events steps)) (s.after steps).current where
  points := (after_holds s steps).scrape_points (after_behind s steps hbound)
  pairs := (after_holds s steps).pairs
  orderly := ((after_holds s steps).scrape_readings _).2

/-- After every run of a process a scrape shows the live values of what was registered, and so does
its text, in one line for each. Runs with the same entries and values show the same. A generator's
name that is not live is not shown later unless it is reported, and no counter goes down. -/
theorem scrape_shows_live (s : Scene σ) (steps later : List (Step σ))
    (hbound : ∀ n, tasksAdded n (steps ++ later) < exactLimit) :
    let entries := registrations (s.events steps)
    let now := s.after steps
    let afterwards := s.after (steps ++ later)
    Shows now.scraped entries now.current ∧
    Tells now.rendered (entries.flatMap (Entry.points now.current)) ∧
    (∀ (τ : Type) (s' : Scene τ) (steps' : List (Step τ)),
      (∀ n, tasksAdded n steps' < exactLimit) →
      (entries.map fun e => (e.pair, now.current e.number)).Perm
        ((registrations (s'.events steps')).map fun e =>
          (e.pair, (s'.after steps').current e.number)) →
      now.scraped = (s'.after steps').scraped ∧ now.rendered = (s'.after steps').rendered) ∧
    (∀ e ∈ entries, ∀ g, (now.current e.number).generatorName ≠ g →
      .setGenerator e.number g ∉ later →
      e.info g ∉ afterwards.scraped.flatMap Family.points) ∧
    (∀ p ∈ now.scraped.flatMap Family.points, p.kind = .counter →
      ∃ q ∈ afterwards.scraped.flatMap Family.points,
        q.name = p.name ∧ q.sample.labels = p.sample.labels ∧ p.sample.value ≤ q.sample.value) := by
  intro entries now afterwards
  have hbefore : ∀ n, tasksAdded n steps < exactLimit :=
    fun n => tasksAdded_lt_of_append (hbound n)
  have hnow := after_shows s steps hbefore
  have hafterwards := after_shows s (steps ++ later) hbound
  have hstay : ∀ e ∈ entries, e ∈ registrations (s.events (steps ++ later)) :=
    fun e he => (registrations_append s steps later).subset he
  refine ⟨hnow, ?_, ?_, ?_, ?_⟩
  · rw [Scene.rendered_eq]
    exact exposition_tells (hnow.named (registrations_sanitized _)) hnow.points
  · intro τ s' steps' hbound' hperm
    have hscraped : now.scraped = (s'.after steps').scraped :=
      (after_holds s steps).scrape_eq_of_perm (after_holds s' steps')
        (after_behind s steps hbefore) (after_behind s' steps' hbound') hperm
    rw [Scene.rendered_eq, Scene.rendered_eq, hscraped]
    exact ⟨rfl, rfl⟩
  · -- what is shown later is live then, and the name did not become so
    intro e he g hne hlater hmem
    have hlive := (after_holds s (steps ++ later)).generator_eq (hstay e he) hmem
    exact generator_ne_append s steps later e.number g hne hlater hlive.symm
  · intro p hp hkind
    obtain ⟨e, he, rfl | rfl⟩ := (hnow.mem_iff p).1 hp
    · cases hkind
    · -- the entry of a counter stays, and its tasks only grow
      refine ⟨_, (hafterwards.mem_iff _).2 ⟨e, hstay e he, .inr rfl⟩, rfl, rfl, ?_⟩
      exact UInt64.le_iff_toNat_le.1 (tasks_le_append s steps later e.number (hbound e.number))

/-- One agent whose generator changes between two scrapes. -/
theorem scrape_shows_next_generator :
    let s : Scene Unit := { state := () }
    let steps : List (Step Unit) := [.create, .register "perfdbg" "a" 0,
      .setGenerator 0 "LoadGen", .scrape, .setGenerator 0 "StressGen"]
    let later : List (Step Unit) := [.addTask 0, .scrape]
    let e : Entry := ⟨"perfdbg", "a", 0⟩
    (∀ n, tasksAdded n (steps ++ later) < exactLimit) ∧
      Shows (s.after steps).scraped [e] (s.after steps).current ∧
      Tells (s.after steps).rendered (e.points (s.after steps).current) ∧
      e.info "LoadGen" ∉ (s.after (steps ++ later)).scraped.flatMap Family.points := by
  intro s steps later e
  have hbound : ∀ n, tasksAdded n (steps ++ later) < exactLimit :=
    fun n => Nat.lt_of_le_of_lt List.countP_le_length (by decide)
  have hentries : registrations (s.events steps) = [e] := by decide +kernel
  have hgenerator : ((s.after steps).current 0).generatorName = "StressGen" := by decide +kernel
  obtain ⟨hshows, htells, -, hgone, -⟩ := scrape_shows_live s steps later hbound
  rw [hentries] at hshows htells hgone
  rw [List.flatMap_singleton] at htells
  refine ⟨hbound, hshows, htells, hgone e List.mem_cons_self "LoadGen" ?_ ?_⟩
  · rw [hgenerator]
    decide
  · simp [later]

end SelfTrace
