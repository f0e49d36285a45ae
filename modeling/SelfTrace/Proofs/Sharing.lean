import Mathlib.Data.List.Induction
import SelfTrace.Proofs.Keeping
import SelfTrace.Proofs.Scraping

/-!
# Agents that share a registry

A process with one registry that starts agents, registers monitored values, changes them and
scrapes, in any order. Collaborators reach neither the registry, except to register, nor the
monitored values.

* `Step`, `Event` — what a process does, and what came of it;
* `start_leads` — what a start makes of the registry;
* `Step.registryEffect` — all that a step can do to the registry;
* `after_holds` — after every run the registry holds what was registered.
-/

namespace SelfTrace

open Metrics

/-- The state of collaborators, and a registry that is shared. -/
abbrev Shared (σ : Type) := σ × Registry

variable {α β σ : Type}

/-- The shared registry. -/
def sharedRegistry : Part (Shared σ) Registry := ⟨Prod.snd, fun s r => (s.1, r)⟩

/-- An action beside the registry and the monitored values. -/
def Act.beside (a : Act σ α) : Act (Shared σ) α := fun s =>
  let (x, t) := a.runOn ⟨s.state.1, s.files, s.log, s.tokens, []⟩
  (x, ⟨(t.state, s.state.2), t.files, t.log, t.tokens, s.monitors⟩)

/-- Collaborators that register with the shared registry. -/
def Collaborators.sharing (d : Collaborators σ) : Collaborators (Shared σ) where
  resolve := d.resolve.beside
  locate := d.locate.beside
  provision resource file := (d.provision resource file).beside
  attach pid tool options := do
    match ← (d.attach pid tool options).beside with
    | .error e => return .error e
    | .ok grip => return .ok ⟨grip.description, grip.release.beside⟩
  register := Registry.registerIn sharedRegistry

/-! ## What a process does -/

/-- Something that a process does. -/
inductive Step (σ : Type) where
  | create
  | setGenerator (number : Nat) (name : String)
  | addTask (number : Nat)
  | register (ns agent : String) (number : Nat)
  | scrape
  | render
  | start (d : Collaborators σ) (c : Config) (env : Environment) (maker : ScriptFile.Maker)
  /-- Anything else, such as closing an agent. -/
  | aside (a : Act σ Unit)

/-- What came of a step. -/
inductive Event (σ : Type) where
  | created (number : Nat)
  | reported
  | registered (ns agent : String) (number : Nat) (answer : Except RegistryError Unit)
  | scraped (fs : List Family)
  | rendered (text : String)
  | started (c : Config) (env : Environment) (a : Agent (Shared σ))
  | done

/-- Does a step. -/
def Step.act : Step σ → Act (Shared σ) (Event σ)
  | .create => do return .created (← Act.newMonitors)
  | .setGenerator number name => do
    Act.report number (·.setGeneratorName name)
    return .reported
  | .addTask number => do
    Act.report number Monitors.addTask
    return .reported
  | .register ns agent number => do
    return .registered ns agent number (← Registry.registerIn sharedRegistry ns agent number)
  | .scrape => do return .scraped (← Registry.scrapeIn sharedRegistry)
  | .render => do return .rendered (← Registry.renderIn sharedRegistry)
  | .start d c env maker => do
    return .started c env (← Agent.start d.sharing c (c.resolvedAgentName env) maker)
  | .aside a => do
    a.beside
    return .done

/-- Does some steps, one after the other. -/
def process (steps : List (Step σ)) : Act (Shared σ) (List (Event σ)) := steps.mapM Step.act

namespace Scene

/-- A scene with a new registry, before any values are monitored. -/
def opened (s : Scene σ) : Scene (Shared σ) := ⟨(s.state, {}), s.files, s.log, s.tokens, []⟩

/-- What came of some steps from a new registry on. -/
def events (s : Scene σ) (steps : List (Step σ)) : List (Event σ) :=
  ((process steps).runOn s.opened).1

/-- The scene after some steps from a new registry on. -/
def after (s : Scene σ) (steps : List (Step σ)) : Scene (Shared σ) :=
  ((process steps).runOn s.opened).2

/-- The monitored values by number. -/
def current (s : Scene σ) (number : Nat) : Monitors := s.monitors[number]?.getD {}

/-- What a scrape of the shared registry answers. -/
def scraped (s : Scene (Shared σ)) : List Family :=
  ((Registry.scrapeIn sharedRegistry).runOn s).1

/-- What a scrape of the shared registry answers as text. -/
def rendered (s : Scene (Shared σ)) : String :=
  ((Registry.renderIn sharedRegistry).runOn s).1

theorem scraped_eq (s : Scene (Shared σ)) : s.scraped = (s.state.2.scrape s.current).2 := rfl

theorem rendered_eq (s : Scene (Shared σ)) : s.rendered = exposition s.scraped := rfl

theorem current_report (s : Scene (Shared σ)) (number n : Nat) (f : Monitors → Monitors) :
    ((Act.report number f).runOn s).2.current n = s.current n ∨
      number = n ∧ ((Act.report number f).runOn s).2.current n = f (s.current n) := by
  rw [Act.runOn_report, current, current, List.getElem?_modify]
  by_cases hn : number = n
  · cases h : s.monitors[n]? with
    | none => exact .inl (by simp)
    | some m => exact .inr ⟨hn, by simp [hn]⟩
  · exact .inl (by simp [hn])

theorem current_report_self {s : Scene (Shared σ)} {number : Nat}
    (h : number < s.monitors.length) (f : Monitors → Monitors) :
    ((Act.report number f).runOn s).2.current number = f (s.current number) := by
  rw [Act.runOn_report, current, current, List.getElem?_modify, List.getElem?_eq_getElem h]
  simp

/-- New values are those that an unused number had. -/
theorem current_of_new {s t : Scene (Shared σ)}
    (h : t.monitors = s.monitors ++ [({} : Monitors)]) (n : Nat) : t.current n = s.current n := by
  rw [current, current, h, List.getElem?_append]
  split
  next => rfl
  next hlength =>
    rw [List.getElem?_eq_none (Nat.le_of_not_lt hlength), List.getElem?_singleton]
    split <;> rfl

end Scene

theorem process_concat (steps : List (Step σ)) (x : Step σ) (s : Scene (Shared σ)) :
    (process (steps ++ [x])).runOn s =
      (((process steps).runOn s).1 ++ [(x.act.runOn ((process steps).runOn s).2).1],
        (x.act.runOn ((process steps).runOn s).2).2) := by
  unfold process
  rw [List.mapM_append, List.mapM_cons, List.mapM_nil]
  rfl

theorem Scene.events_concat (s : Scene σ) (steps : List (Step σ)) (x : Step σ) :
    s.events (steps ++ [x]) = s.events steps ++ [(x.act.runOn (s.after steps)).1] := by
  rw [events, process_concat]
  rfl

theorem Scene.after_concat (s : Scene σ) (steps : List (Step σ)) (x : Step σ) :
    s.after (steps ++ [x]) = (x.act.runOn (s.after steps)).2 := by
  rw [after, process_concat]
  rfl

/-! ## Quiet actions -/

namespace Act

/-- The action changes neither the registry nor the monitored values. -/
def Quiet (a : Act (Shared σ) α) : Prop :=
  ∀ s, (a.runOn s).2.state.2 = s.state.2 ∧ (a.runOn s).2.monitors = s.monitors

/-- What every quiet action leaves alone. -/
def quietView (s : Scene (Shared σ)) : Registry × List Monitors := (s.state.2, s.monitors)

theorem quiet_iff (a : Act (Shared σ) α) : a.Quiet ↔ a.Keeps quietView :=
  forall_congr' fun s => by rw [quietView, quietView, Prod.mk.injEq]

theorem quietView_unfiled : Unfiled (quietView : Scene (Shared σ) → _) := fun _ _ _ => rfl

namespace Quiet

theorem emit (e : Log.Event) : (Act.emit e : Act (Shared σ) Unit).Quiet := fun _ => ⟨rfl, rfl⟩

theorem beside (a : Act σ α) : a.beside.Quiet := fun _ => ⟨rfl, rfl⟩

theorem leads {a : Act (Shared σ) α} (h : a.Quiet) (s : Scene (Shared σ)) :
    a.Leads s fun _ t => t.state.2 = s.state.2 ∧ t.monitors = s.monitors :=
  h s

end Quiet

end Act

theorem provisionScript_quiet (d : Collaborators σ) (c : Config) (maker : ScriptFile.Maker) :
    (Agent.provisionScript d.sharing c maker).Quiet := by
  rw [Act.quiet_iff]
  refine provisionScript_keeps Act.quietView_unfiled d.sharing c maker ?_
  intro resource file
  exact (Act.quiet_iff _).1 (Act.Quiet.beside (d.provision resource file))

/-! ## Starts -/

/-- What becomes of a registry when monitored values may have been registered with it, and whether
they were. -/
inductive Offered (r : Registry) (ns agent : String) (number : Nat) : Registry → Bool → Prop where
  | notReached : Offered r ns agent number r false
  | refused (e : RegistryError) (r' : Registry)
      (h : r.registerMonitors ns agent number = (r', .error e)) :
      Offered r ns agent number r' false
  | accepted (clean : String) (r' : Registry)
      (h : r.registerMonitors ns agent number = (r', .ok clean)) :
      Offered r ns agent number r' true

theorem registerIn_leads (ns agent : String) (number : Nat) (s : Scene (Shared σ)) :
    (Registry.registerIn sharedRegistry ns agent number).Leads s fun answer t =>
      Offered s.state.2 ns agent number t.state.2 answer.isOk ∧ t.monitors = s.monitors := by
  rw [Act.Leads, Registry.registerIn_runOn]
  rcases h : s.state.2.registerMonitors ns agent number with ⟨r, answer⟩
  have hview : (sharedRegistry.view s.state).registerMonitors ns agent number = (r, answer) := h
  rw [hview]
  cases answer with
  | error e => exact ⟨.refused e r h, rfl⟩
  | ok clean => exact ⟨.accepted clean r h, rfl⟩

theorem attach_leads (d : Collaborators σ) (pid : ProcessId) (tool : Path)
    (options : AgentOptions) (s : Scene (Shared σ)) :
    (d.sharing.attach pid tool options).Leads s fun answer t =>
      (t.state.2 = s.state.2 ∧ t.monitors = s.monitors) ∧
        ∀ grip, answer = .ok grip → grip.release.Quiet := by
  refine ((Act.Quiet.beside (d.attach pid tool options)).leads s).bind ?_
  intro answer t ht
  cases answer with
  | error e => exact .pure ⟨ht, fun grip h => nomatch h⟩
  | ok grip =>
    refine .pure ⟨ht, ?_⟩
    rintro _ ⟨rfl⟩
    exact .beside grip.release

/-- Going through the stages of a start offers the agent's values to the registry, if the stages
before succeed; the start succeeds exactly if the values are registered. -/
theorem install_leads (d : Collaborators σ) (c : Config) (name : String) (maker : ScriptFile.Maker)
    (number : Nat) (s : Scene (Shared σ)) :
    (Agent.install d.sharing c name maker { monitors := number }).Leads s fun x t =>
      x.1.monitors = number ∧ t.monitors = s.monitors ∧
        Offered s.state.2 c.metricsNamespace name number t.state.2 x.2.isOk := by
  -- up to the registration nothing touches the registry, and a failure ends the start before it
  refine ((Act.Quiet.beside d.resolve).leads s).bind ?_
  rintro pid t₁ ⟨hregistry₁, hmonitors₁⟩
  cases pid with
  | none => exact .pure ⟨rfl, hmonitors₁, hregistry₁ ▸ .notReached⟩
  | some pid =>
  refine ((Act.Quiet.beside d.locate).leads t₁).bind ?_
  rintro answer t₂ ⟨hregistry₂, hmonitors₂⟩
  rw [hregistry₁] at hregistry₂
  rw [hmonitors₁] at hmonitors₂
  cases answer with
  | error e => exact .pure ⟨rfl, hmonitors₂, hregistry₂ ▸ .notReached⟩
  | ok tool =>
  refine ((provisionScript_quiet d c maker).leads t₂).bind ?_
  rintro answer t₃ ⟨hregistry₃, hmonitors₃⟩
  rw [hregistry₂] at hregistry₃
  rw [hmonitors₂] at hmonitors₃
  cases answer with
  | error e => exact .pure ⟨rfl, hmonitors₃, hregistry₃ ▸ .notReached⟩
  | ok made =>
  refine (attach_leads d pid tool ⟨c.listener, made.2⟩ t₃).bind ?_
  rintro answer t₄ ⟨⟨hregistry₄, hmonitors₄⟩, hrelease⟩
  rw [hregistry₃] at hregistry₄
  rw [hmonitors₃] at hmonitors₄
  cases answer with
  | error e => exact .pure ⟨rfl, hmonitors₄, hregistry₄ ▸ .notReached⟩
  | ok grip =>
  refine ((Act.Quiet.emit _).leads t₄).bind ?_
  rintro _ t₅ ⟨hregistry₅, hmonitors₅⟩
  rw [hregistry₄] at hregistry₅
  rw [hmonitors₄] at hmonitors₅
  refine (registerIn_leads c.metricsNamespace name number t₅).bind ?_
  rintro answer t₆ ⟨hoffered, hmonitors₆⟩
  rw [hregistry₅] at hoffered
  rw [hmonitors₅] at hmonitors₆
  cases answer with
  | ok _ => exact .pure ⟨rfl, hmonitors₆, hoffered⟩
  | error e =>
    -- the tool is taken down again, which changes nothing of the registry
    refine ((hrelease grip rfl).leads t₆).bind ?_
    rintro _ t₇ ⟨hregistry₇, hmonitors₇⟩
    exact .pure ⟨rfl, hmonitors₇.trans hmonitors₆, hregistry₇ ▸ hoffered⟩

/-- A start makes new values and offers them to the registry, if its stages get that far; the
agent is attached exactly if they are registered. -/
theorem start_leads (d : Collaborators σ) (c : Config) (name : String) (maker : ScriptFile.Maker)
    (s : Scene (Shared σ)) :
    (Agent.start d.sharing c name maker).Leads s fun a t =>
      a.monitors = s.monitors.length ∧ t.monitors = s.monitors ++ [({} : Monitors)] ∧
        Offered s.state.2 c.metricsNamespace name a.monitors t.state.2 a.isAttached := by
  refine Act.Leads.bind (P := fun number t => number = s.monitors.length ∧
    t.state.2 = s.state.2 ∧ t.monitors = s.monitors ++ [({} : Monitors)]) ⟨rfl, rfl, rfl⟩ ?_
  rintro _ t₁ ⟨rfl, hregistry₁, hmonitors₁⟩
  refine (install_leads d c name maker s.monitors.length t₁).bind ?_
  rw [hregistry₁, hmonitors₁]
  rintro ⟨a, outcome⟩ t ⟨hnumber, hmonitors, hoffered⟩
  dsimp only at hnumber hoffered
  rw [← hnumber] at hoffered
  -- what is left writes to the log and tells the outcome by the state
  cases outcome with
  | ok _ => exact ⟨hnumber, hmonitors, hoffered⟩
  | error e => exact ⟨hnumber, hmonitors, hoffered⟩

/-! ## What has been registered -/

/-- Monitored values that may have been registered, and whether they were. -/
structure Offer where
  ns : String
  agent : String
  number : Nat
  accepted : Bool
deriving DecidableEq, Repr

/-- The entry that an offer has become, if it was accepted. -/
def Offer.entries (o : Offer) : List Entry :=
  if o.accepted then
    ((sanitizeText? o.ns).map fun clean => ⟨clean, o.agent, o.number⟩).toList
  else []

/-- The offer of an agent that was started; it is accepted exactly if the agent is attached. -/
def Event.starts : Event σ → List Offer
  | .started c env a =>
    [⟨c.metricsNamespace, c.resolvedAgentName env, a.monitors, a.isAttached⟩]
  | _ => []

/-- The values that an event has offered to the registry. -/
def Event.offers : Event σ → List Offer
  | .registered ns agent number answer => [⟨ns, agent, number, answer.isOk⟩]
  | e => e.starts

/-- The entries that were registered in some events, in their order. -/
def registrations (events : List (Event σ)) : List Entry :=
  (events.flatMap Event.offers).flatMap Offer.entries

theorem registrations_concat (events : List (Event σ)) (e : Event σ) :
    registrations (events ++ [e]) = registrations events ++ e.offers.flatMap Offer.entries := by
  simp [registrations]

/-- What a step can do to the registry. -/
inductive RegistryEffect (r : Registry) (look : Nat → Monitors) : List Offer → Registry → Prop where
  | kept : RegistryEffect r look [] r
  | scraped : RegistryEffect r look [] (r.scrape look).1
  | offered (o : Offer) (r' : Registry) (h : Offered r o.ns o.agent o.number r' o.accepted) :
      RegistryEffect r look [o] r'

theorem Step.registryEffect (x : Step σ) (s : Scene (Shared σ)) :
    x.act.Leads s fun e t => RegistryEffect s.state.2 s.current e.offers t.state.2 := by
  cases x with
  | create => exact .kept
  | setGenerator number name => exact .kept
  | addTask number => exact .kept
  | register ns agent number =>
    refine (registerIn_leads ns agent number s).bind ?_
    rintro answer t ⟨hoffered, -⟩
    exact .pure (.offered ⟨ns, agent, number, answer.isOk⟩ _ hoffered)
  | scrape => exact .scraped
  | render => exact .scraped
  | start d c env maker =>
    refine (start_leads d c (c.resolvedAgentName env) maker s).bind ?_
    rintro a t ⟨-, -, hoffered⟩
    exact .pure (.offered ⟨c.metricsNamespace, c.resolvedAgentName env, a.monitors, a.isAttached⟩ _
      hoffered)
  | aside a => exact .kept

/-- Values that were offered are one more entry, or nothing has changed for a scrape. -/
theorem Offered.cases {r r' : Registry} {entries : List Entry} {o : Offer}
    (hoffered : Offered r o.ns o.agent o.number r' o.accepted) (h : r.Holds entries) :
    o.entries = [] ∧ o.accepted = false ∧ r'.Holds entries ∧ r'.sources = r.sources ∨
      ∃ clean, sanitizeText? o.ns = some clean ∧ o.entries = [⟨clean, o.agent, o.number⟩] ∧
        o.accepted = true ∧ r'.Holds (entries ++ o.entries) ∧
        r'.sources = r.sources ++ [.monitors o.number (Collector.fresh clean o.agent)] := by
  obtain ⟨ns, agent, number, accepted⟩ := o
  cases hoffered with
  | notReached => exact .inl ⟨rfl, rfl, h, rfl⟩
  | refused e _ hrun =>
    have houtcome := Registry.registerMonitors_outcome h ns agent number
    rw [hrun] at houtcome
    rcases houtcome with ⟨-, hholds, hsources⟩ | ⟨clean, -, hanswer, -⟩
    · exact .inl ⟨rfl, rfl, hholds, hsources⟩
    · cases hanswer
  | accepted clean' _ hrun =>
    have houtcome := Registry.registerMonitors_outcome h ns agent number
    rw [hrun] at houtcome
    rcases houtcome with ⟨⟨e, hanswer⟩, -⟩ | ⟨clean, hclean, -, hholds, hsources⟩
    · cases hanswer
    · have hentries : Offer.entries ⟨ns, agent, number, true⟩ = [⟨clean, agent, number⟩] := by
        simp [Offer.entries, hclean]
      exact .inr ⟨clean, hclean, hentries, rfl, hentries ▸ hholds, hsources⟩

theorem RegistryEffect.holds {r r' : Registry} {look : Nat → Monitors} {offers : List Offer}
    {entries : List Entry} (heffect : RegistryEffect r look offers r') (h : r.Holds entries) :
    r'.Holds (entries ++ offers.flatMap Offer.entries) := by
  cases heffect with
  | kept =>
    rw [List.flatMap_nil, List.append_nil]
    exact h
  | scraped =>
    rw [List.flatMap_nil, List.append_nil]
    exact h.scrape look
  | offered o _ hoffered =>
    rw [List.flatMap_singleton]
    rcases hoffered.cases h with ⟨hentries, -, hholds, -⟩ | ⟨clean, -, -, -, hholds, -⟩
    · rw [hentries, List.append_nil]
      exact hholds
    · exact hholds

/-- The registry holds what was registered, after every run. -/
theorem after_holds (s : Scene σ) (steps : List (Step σ)) :
    (s.after steps).state.2.Holds (registrations (s.events steps)) := by
  induction steps using List.reverseRecOn with
  | nil => exact Registry.holds_empty
  | append_singleton steps x ih =>
    rw [s.events_concat, s.after_concat, registrations_concat]
    exact (x.registryEffect (s.after steps)).holds ih

end SelfTrace
