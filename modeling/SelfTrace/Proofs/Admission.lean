import SelfTrace.Proofs.Sharing

/-!
# Who is admitted to a shared registry

What a registry that is shared answers to a registration after any run, and which of the agents
that were started it exposes.

* `admission` — the answer by what is registered already;
* `after_accepted` — the accepted offers of a run are its entries;
* `Scene.Exposes` — a scrape depends on the monitored values with a number;
* `registration_admitted` — registrations are answered by `admission`, and a started agent is
  exposed exactly if it is attached.
-/

namespace SelfTrace

open Metrics

variable {σ : Type}

/-! ## Registrations -/

/-- The answer to the registration of an agent, by what is registered. -/
def admission (entries : List Entry) (ns agent : String) : Except RegistryError Unit :=
  if Text.trimmed ns = "" then .error (.invalidNamespace ns)
  else if ∃ e ∈ entries, sanitizeText? ns = some e.ns ∧ e.agent = agent then
    .error (.alreadyRegistered agent)
  else .ok ()

/-- What is compared in the registration of an agent. -/
def compared (entries : List Entry) (ns agent : String) : List (String × String) :=
  ((sanitizeText? ns).map fun clean => (clean, agent)).toList ++ entries.map Entry.pair

theorem mem_pairs_iff {entries : List Entry} {ns clean agent : String}
    (hclean : sanitizeText? ns = some clean) :
    (clean, agent) ∈ entries.map Entry.pair ↔
      ∃ e ∈ entries, sanitizeText? ns = some e.ns ∧ e.agent = agent := by
  rw [List.mem_map, hclean]
  constructor
  · rintro ⟨e, he, heq⟩
    obtain ⟨rfl, rfl⟩ := Prod.mk.inj heq
    exact ⟨e, he, rfl, rfl⟩
  · rintro ⟨e, he, hns, rfl⟩
    exact ⟨e, he, Prod.ext (Option.some.inj hns).symm rfl⟩

/-- The backend has no failures of its own. -/
theorem Metrics.Registry.Holds.ne_backend {r : Registry} {entries : List Entry}
    (h : r.Holds entries) (ns agent : String) (number : Nat) (message : String) :
    (r.registerMonitors ns agent number).2 ≠ .error (.backend message) := by
  cases hclean : sanitizeText? ns with
  | none =>
    rw [Registry.registerMonitors_of_blank r ((sanitizeText?_eq_none_iff ns).1 hclean)]
    rintro ⟨⟩
  | some clean =>
    rcases Registry.registerMonitors_cases h hclean agent number with ⟨-, h, -⟩ | ⟨-, h, -⟩
    · rw [h]
      rintro ⟨⟩
    · rw [h]
      rintro ⟨⟩

/-- Without collisions a registration is answered by what is registered, and a refused one leaves
the registry as it was. -/
theorem Metrics.Registry.Holds.admitted {r : Registry} {entries : List Entry}
    (h : r.Holds entries) (ns agent : String) (number : Nat)
    (hfree : CollisionFree (compared entries ns agent)) :
    (r.registerMonitors ns agent number).2.map (fun _ => ()) = admission entries ns agent ∧
      (admission entries ns agent ≠ .ok () → (r.registerMonitors ns agent number).1 = r) := by
  unfold admission
  by_cases hblank : Text.trimmed ns = ""
  · rw [Registry.registerMonitors_of_blank r hblank, if_pos hblank]
    exact ⟨rfl, fun _ => rfl⟩
  · rw [if_neg hblank]
    obtain ⟨clean, hclean⟩ := Option.ne_none_iff_exists'.1
      (mt (sanitizeText?_eq_none_iff ns).1 hblank)
    rw [compared, hclean] at hfree
    by_cases hmem : (clean, agent) ∈ entries.map Entry.pair
    · -- the first metric is refused before the registry has changed
      rw [if_pos ((mem_pairs_iff hclean).1 hmem), Registry.registerMonitors_of_mem h hclean hmem]
      exact ⟨rfl, fun _ => rfl⟩
    · rw [if_neg (mt (mem_pairs_iff hclean).2 hmem)]
      refine ⟨?_, fun hne => absurd rfl hne⟩
      rcases Registry.registerMonitors_cases h hclean agent number with ⟨hclash, -⟩ | ⟨-, h, -⟩
      · exact absurd ((clashes_iff hfree).1 hclash) hmem
      · rw [h]
        rfl

/-- A registration that is refused and keeps the registry leaves the scene as it was. -/
theorem registerIn_refused {ns agent : String} {number : Nat} {s : Scene (Shared σ)}
    (hrefused : ((Registry.registerIn sharedRegistry ns agent number).runOn s).1 ≠ .ok ())
    (hkept : (s.state.2.registerMonitors ns agent number).1 = s.state.2) :
    ((Registry.registerIn sharedRegistry ns agent number).runOn s).2 = s := by
  have hrun := Registry.registerIn_runOn sharedRegistry ns agent number s
  rcases h : (sharedRegistry.view s.state).registerMonitors ns agent number with ⟨r, e | clean⟩
  · rw [h] at hrun
    have hr : r = s.state.2 := (congrArg Prod.fst h).symm.trans hkept
    rw [hrun, hr]
    rfl
  · rw [h] at hrun
    rw [hrun] at hrefused
    exact absurd rfl hrefused

/-! ## Accepted offers -/

/-- The namespace and the name that an offer is compared by. -/
def Offer.key (o : Offer) : Option String × String := (sanitizeText? o.ns, o.agent)

/-- An entry has the key and the number of an accepted offer. -/
def Offer.Made (o : Offer) : Prop :=
  o.accepted = true → ∃ clean, sanitizeText? o.ns = some clean ∧
    o.entries = [⟨clean, o.agent, o.number⟩]

theorem RegistryEffect.made {r r' : Registry} {look : Nat → Monitors} {offers : List Offer}
    {entries : List Entry} (heffect : RegistryEffect r look offers r') (h : r.Holds entries) :
    ∀ o ∈ offers, o.Made := by
  cases heffect with
  | kept => exact fun o ho => nomatch ho
  | scraped => exact fun o ho => nomatch ho
  | offered o _ hoffered =>
    intro o' ho' haccepted
    cases List.mem_singleton.1 ho'
    rcases hoffered.cases h with ⟨-, hrefused, -⟩ | ⟨clean, hclean, hentries, -⟩
    · rw [hrefused] at haccepted
      cases haccepted
    · exact ⟨clean, hclean, hentries⟩

theorem after_made (s : Scene σ) (steps : List (Step σ)) :
    ∀ o ∈ (s.events steps).flatMap Event.offers, o.Made := by
  induction steps using List.reverseRecOn with
  | nil => exact fun o ho => nomatch ho
  | append_singleton steps x ih =>
    intro o ho
    rw [s.events_concat, List.flatMap_append, List.flatMap_singleton] at ho
    rcases List.mem_append.1 ho with ho | ho
    · exact ih o ho
    · exact (x.registryEffect (s.after steps)).made (after_holds s steps) o ho

/-- The keys of accepted offers are those of the entries they have become. -/
theorem accepted_keys {offers : List Offer} (hmade : ∀ o ∈ offers, o.Made) :
    (offers.filter Offer.accepted).map Offer.key =
      (offers.flatMap Offer.entries).map fun e => (some e.ns, e.agent) := by
  induction offers with
  | nil => rfl
  | cons o offers ih =>
    have hrest := ih fun o' ho' => hmade o' (List.mem_cons_of_mem o ho')
    rw [List.flatMap_cons, List.map_append, ← hrest]
    cases haccepted : o.accepted with
    | false =>
      have hentries : o.entries = [] := by simp [Offer.entries, haccepted]
      rw [List.filter_cons_of_neg (by simp [haccepted]), hentries]
      rfl
    | true =>
      obtain ⟨clean, hclean, hentries⟩ := hmade o List.mem_cons_self haccepted
      rw [List.filter_cons_of_pos haccepted, hentries, List.map_cons, Offer.key, hclean]
      rfl

/-- An accepted offer is an entry. -/
theorem mem_registrations {events : List (Event σ)} {o : Offer}
    (ho : o ∈ events.flatMap Event.offers) (hmade : o.Made) (haccepted : o.accepted = true) :
    ∃ clean, sanitizeText? o.ns = some clean ∧
      ⟨clean, o.agent, o.number⟩ ∈ registrations events := by
  obtain ⟨clean, hclean, hentries⟩ := hmade haccepted
  refine ⟨clean, hclean, List.mem_flatMap.2 ⟨o, ho, ?_⟩⟩
  rw [hentries]
  exact List.mem_cons_self

/-- An entry is an accepted offer. -/
theorem offer_of_mem {events : List (Event σ)} (hmade : ∀ o ∈ events.flatMap Event.offers, o.Made)
    {e : Entry} (he : e ∈ registrations events) :
    ∃ o ∈ events.flatMap Event.offers, o.accepted = true ∧ o.number = e.number := by
  obtain ⟨o, ho, he⟩ := List.mem_flatMap.1 he
  cases haccepted : o.accepted with
  | false => simp [Offer.entries, haccepted] at he
  | true =>
    obtain ⟨clean, -, hentries⟩ := hmade o ho haccepted
    rw [hentries, List.mem_singleton] at he
    exact ⟨o, ho, haccepted, he ▸ rfl⟩

/-! ## Agents that were started -/

/-- The step registers values itself. -/
def Step.isRegister : Step σ → Bool
  | .register _ _ _ => true
  | _ => false

theorem Event.starts_sublist (e : Event σ) : e.starts.Sublist e.offers := by
  cases e with
  | registered ns agent number answer => exact List.nil_sublist _
  | _ => exact .refl _

/-- Only agents are registered where no step registers values itself. -/
theorem Step.offers_eq_starts (x : Step σ) (s : Scene (Shared σ)) (h : x.isRegister = false) :
    x.act.Leads s fun e _ => e.offers = e.starts := by
  cases x with
  | register ns agent number => cases h
  | _ => rfl

theorem after_starts_sublist (s : Scene σ) (steps : List (Step σ)) :
    ((s.events steps).flatMap Event.starts).Sublist ((s.events steps).flatMap Event.offers) := by
  induction s.events steps with
  | nil => exact .refl _
  | cons e events ih => exact e.starts_sublist.append ih

theorem after_offers_eq_starts (s : Scene σ) (steps : List (Step σ))
    (h : ∀ x ∈ steps, x.isRegister = false) :
    (s.events steps).flatMap Event.offers = (s.events steps).flatMap Event.starts := by
  induction steps using List.reverseRecOn with
  | nil => rfl
  | append_singleton steps x ih =>
    have hx := h x (List.mem_append_right _ List.mem_cons_self)
    have hlast := x.offers_eq_starts (s.after steps) hx
    rw [s.events_concat, List.flatMap_append, List.flatMap_append, List.flatMap_singleton,
      List.flatMap_singleton, ih fun y hy => h y (List.mem_append_left _ hy)]
    exact congrArg _ hlast

/-- No step loses monitored values, and a start makes new ones for its agent. -/
theorem Step.monitors_cases (x : Step σ) (s : Scene (Shared σ)) :
    x.act.Leads s fun e t => e.starts = [] ∧ s.monitors.length ≤ t.monitors.length ∨
      ∃ o, e.starts = [o] ∧ o.number = s.monitors.length ∧
        t.monitors.length = s.monitors.length + 1 := by
  cases x with
  | create =>
    refine .inl ⟨rfl, ?_⟩
    show s.monitors.length ≤ (s.monitors ++ [_]).length
    rw [List.length_append]
    exact Nat.le_add_right _ _
  | setGenerator number name =>
    refine .inl ⟨rfl, ?_⟩
    exact Nat.le_of_eq (List.length_modify _ _ _).symm
  | addTask number =>
    refine .inl ⟨rfl, ?_⟩
    exact Nat.le_of_eq (List.length_modify _ _ _).symm
  | register ns agent number =>
    refine (registerIn_leads ns agent number s).bind ?_
    rintro answer t ⟨-, hmonitors⟩
    exact .inl ⟨rfl, Nat.le_of_eq (congrArg List.length hmonitors.symm)⟩
  | scrape => exact .inl ⟨rfl, Nat.le_refl _⟩
  | render => exact .inl ⟨rfl, Nat.le_refl _⟩
  | start d c env maker =>
    refine (start_leads d c (c.resolvedAgentName env) maker s).bind ?_
    rintro a t ⟨hnumber, hmonitors, -⟩
    refine .inr ⟨_, rfl, hnumber, ?_⟩
    show t.monitors.length = _
    rw [hmonitors, List.length_append, List.length_singleton]
  | aside a => exact .inl ⟨rfl, Nat.le_refl _⟩

/-- Every agent that was started has monitored values of its own. -/
theorem after_numbers (s : Scene σ) (steps : List (Step σ)) :
    let starts := (s.events steps).flatMap Event.starts
    (starts.map Offer.number).Nodup ∧ ∀ o ∈ starts, o.number < (s.after steps).monitors.length := by
  induction steps using List.reverseRecOn with
  | nil => exact ⟨.nil, fun o ho => nomatch ho⟩
  | append_singleton steps x ih =>
    obtain ⟨hnodup, hlt⟩ := ih
    rw [s.events_concat, s.after_concat, List.flatMap_append, List.flatMap_singleton]
    rcases x.monitors_cases (s.after steps) with ⟨hstarts, hle⟩ | ⟨o, hstarts, hnumber, hlength⟩
    · rw [hstarts, List.append_nil]
      exact ⟨hnodup, fun o ho => Nat.lt_of_lt_of_le (hlt o ho) hle⟩
    · -- the number of a new agent is one that no agent had
      rw [hstarts]
      refine ⟨?_, ?_⟩
      · rw [List.map_append, List.map_singleton, ← List.concat_eq_append]
        refine hnodup.concat fun hmem => ?_
        obtain ⟨o', ho', heq⟩ := List.mem_map.1 hmem
        have hbelow := hlt o' ho'
        omega
      · intro o' ho'
        rcases List.mem_append.1 ho' with ho' | ho'
        · have hbelow := hlt o' ho'
          omega
        · rw [List.mem_singleton.1 ho']
          omega

/-! ## What is exposed -/

/-- Scrapes depend on the monitored values with a number: another generator would be seen. -/
def Scene.Exposes (s : Scene (Shared σ)) (number : Nat) : Prop :=
  ∃ name, ((Act.report number (·.setGeneratorName name)).runOn s).2.scraped ≠ s.scraped

/-- A scrape tells two generators of an entry apart. -/
theorem scraped_ne {s t : Scene (Shared σ)} {entries : List Entry} (h : s.state.2.Holds entries)
    (hstate : t.state = s.state) {e : Entry} (he : e ∈ entries)
    (hne : (t.current e.number).generatorName ≠ (s.current e.number).generatorName) :
    t.scraped ≠ s.scraped := by
  intro heq
  have hinfo := h.info_mem t.current he
  rw [t.scraped_eq, hstate] at heq
  rw [heq] at hinfo
  exact hne (h.generator_eq he hinfo)

/-- The values of an entry are exposed. -/
theorem exposes_of_mem {s : Scene (Shared σ)} {entries : List Entry}
    (h : s.state.2.Holds entries) {e : Entry} (he : e ∈ entries)
    (hlength : e.number < s.monitors.length) : s.Exposes e.number := by
  -- a name that is longer than the present one is another
  refine ⟨(s.current e.number).generatorName ++ "+", scraped_ne h rfl he ?_⟩
  rw [Scene.current_report_self hlength]
  intro heq
  have hlength := congrArg String.length heq
  rw [Monitors.setGeneratorName, String.length_append] at hlength
  have hone : "+".length = 1 := rfl
  omega

/-- Values of no entry are not exposed. -/
theorem not_exposes {s : Scene (Shared σ)} {entries : List Entry} (h : s.state.2.Holds entries)
    {number : Nat} (hnone : ∀ e ∈ entries, e.number ≠ number) : ¬ s.Exposes number := by
  rintro ⟨name, hne⟩
  refine hne (h.scrape_congr fun e he => ?_)
  rcases s.current_report number e.number (·.setGeneratorName name) with hsame | ⟨heq, -⟩
  · exact hsame
  · exact absurd heq.symm (hnone e he)

/-- Without registrations of its own a process exposes the agents that are attached. -/
theorem exposes_iff_attached (s : Scene σ) (steps : List (Step σ))
    (hagents : ∀ x ∈ steps, x.isRegister = false) :
    ∀ o ∈ (s.events steps).flatMap Event.starts,
      (s.after steps).Exposes o.number ↔ o.accepted = true := by
  intro o ho
  have hholds := after_holds s steps
  obtain ⟨hnumbers, hlt⟩ := after_numbers s steps
  have hmade := after_made s steps
  constructor
  · intro hexposes
    by_contra hrefused
    refine not_exposes hholds ?_ hexposes
    intro e he hnumber
    -- the entry is that of an agent that is attached, and no other agent has its number
    obtain ⟨o', ho', haccepted, hnumber'⟩ := offer_of_mem hmade he
    rw [after_offers_eq_starts s steps hagents] at ho'
    have hsame : o' = o := List.inj_on_of_nodup_map hnumbers ho' ho (hnumber'.trans hnumber)
    exact hrefused (hsame ▸ haccepted)
  · intro haccepted
    have ho' := (after_starts_sublist s steps).subset ho
    obtain ⟨clean, -, hmem⟩ := mem_registrations ho' (hmade o ho') haccepted
    have hexposes := exposes_of_mem hholds hmem (hlt o ho)
    exact hexposes

/-- No two agents that are attached have the same namespace and name. -/
theorem attached_keys (s : Scene σ) (steps : List (Step σ)) :
    ((((s.events steps).flatMap Event.starts).filter Offer.accepted).map Offer.key).Nodup := by
  refine (((after_starts_sublist s steps).filter Offer.accepted).map Offer.key).nodup ?_
  rw [accepted_keys (after_made s steps)]
  have hpairs := (after_holds s steps).pairs
  -- pairs of entries are distinct, and keys are pairs in another form
  have hinj : Function.Injective fun p : String × String => (some p.1, p.2) := by
    rintro ⟨ns, agent⟩ ⟨ns', agent'⟩ h
    obtain ⟨hns, hagent⟩ := Prod.mk.inj h
    exact Prod.ext (Option.some.inj hns) hagent
  have hkeys := hpairs.map hinj
  rw [List.map_map] at hkeys
  exact hkeys

/-! ## The answer to every registration -/

/-- After every run a registration is answered by what is registered: the namespace is refused if it
is blank, the agent if the same name is registered in the same sanitized namespace, and the backend
never fails; a refused registration leaves everything as it was. Where only agents are registered,
a scrape depends on an agent's values exactly if it is attached, an attached agent is shown in its
namespace under its name, and no two of them have both in common. -/
theorem registration_admitted (s : Scene σ) (steps : List (Step σ)) :
    let entries := registrations (s.events steps)
    let starts := (s.events steps).flatMap Event.starts
    let now := s.after steps
    (∀ ns agent number,
      let answered := (Registry.registerIn sharedRegistry ns agent number).runOn now
      (∀ message, answered.1 ≠ .error (.backend message)) ∧
      (CollisionFree (compared entries ns agent) →
        answered.1 = admission entries ns agent ∧ (answered.1 ≠ .ok () → answered.2 = now))) ∧
    ((∀ x ∈ steps, x.isRegister = false) →
      (starts.map Offer.number).Nodup ∧
      (∀ o ∈ starts, now.Exposes o.number ↔ o.accepted = true) ∧
      (∀ o ∈ starts, o.accepted = true → ∃ clean, sanitizeText? o.ns = some clean ∧
        Entry.info ⟨clean, o.agent, o.number⟩ (now.current o.number).generatorName ∈
          now.scraped.flatMap Family.points) ∧
      ((starts.filter Offer.accepted).map Offer.key).Nodup) := by
  intro entries starts now
  have hholds : now.state.2.Holds entries := after_holds s steps
  refine ⟨?_, ?_⟩
  · intro ns agent number answered
    have hanswer : answered.1 = (now.state.2.registerMonitors ns agent number).2.map fun _ => () :=
      Registry.registerIn_answer sharedRegistry ns agent number now
    refine ⟨?_, ?_⟩
    · intro message
      have hbackend := hholds.ne_backend ns agent number message
      rw [hanswer]
      cases h : (now.state.2.registerMonitors ns agent number).2 with
      | ok clean => rintro ⟨⟩
      | error e =>
        rintro ⟨rfl⟩
        exact hbackend h
    · intro hfree
      obtain ⟨hadmitted, hkept⟩ := hholds.admitted ns agent number hfree
      rw [← hanswer] at hadmitted
      refine ⟨hadmitted, fun hrefused => ?_⟩
      exact registerIn_refused hrefused (hkept (hadmitted ▸ hrefused))
  · -- agents have numbers of their own, so the answers tell who is exposed
    intro hagents
    refine ⟨(after_numbers s steps).1, exposes_iff_attached s steps hagents, ?_,
      attached_keys s steps⟩
    intro o ho haccepted
    have ho' := (after_starts_sublist s steps).subset ho
    obtain ⟨clean, hclean, hmem⟩ := mem_registrations ho' (after_made s steps o ho') haccepted
    exact ⟨clean, hclean, hholds.info_mem now.current hmem⟩

/-- Two namespaces that are the same once they are sanitized, and two names. -/
theorem registration_admitted_sanitized :
    let s : Scene Unit := { state := () }
    let now := s.after [.create, .register "perf dbg" "a" 0]
    let answer := fun agent => ((Registry.registerIn sharedRegistry "perf.dbg" agent 0).runOn now).1
    CollisionFree [("perf_dbg", "a"), ("perf_dbg", "a")] ∧
      CollisionFree [("perf_dbg", "b"), ("perf_dbg", "a")] ∧
      answer "a" = .error (.alreadyRegistered "a") ∧ answer "b" = .ok () := by
  intro s now answer
  have hfree : CollisionFree [("perf_dbg", "a"), ("perf_dbg", "a")] := by
    unfold CollisionFree
    decide +kernel
  have hfree' : CollisionFree [("perf_dbg", "b"), ("perf_dbg", "a")] := by
    unfold CollisionFree
    decide +kernel
  have hentries : registrations (s.events [.create, .register "perf dbg" "a" 0]) =
      [⟨"perf_dbg", "a", 0⟩] := by
    decide +kernel
  have hclean : sanitizeText? "perf.dbg" = some "perf_dbg" := by decide +kernel
  obtain ⟨hanswers, -⟩ := registration_admitted s [.create, .register "perf dbg" "a" 0]
  rw [hentries] at hanswers
  refine ⟨hfree, hfree', ?_, ?_⟩
  · have hcompared := (hanswers "perf.dbg" "a" 0).2
    rw [compared, hclean] at hcompared
    refine (hcompared hfree).1.trans ?_
    decide +kernel
  · have hcompared := (hanswers "perf.dbg" "b" 0).2
    rw [compared, hclean] at hcompared
    refine (hcompared hfree').1.trans ?_
    decide +kernel

end SelfTrace
