import SelfTrace.Agent.Error
import SelfTrace.Metrics.Collector
import SelfTrace.Scene

/-!
# The registry of metrics

A registry holds sources of samples and refuses one that counts as the same as another, or that
differs from others of its name in help text or labels. The monitored values of agents live outside;
a source knows them by number, and a scrape looks them up.
-/

namespace SelfTrace.Metrics

/-- Something that gives samples. -/
inductive Source where
  | monitors (number : Nat) (collector : Collector)
  | counter (descriptor : Descriptor) (value : Nat)
deriving Repr

namespace Source

def descriptors : Source → List Descriptor
  | .monitors _ c => c.descriptors
  | .counter d _ => [d]

/-- The number by which a source is known: the sum of those of its metrics. -/
def identity (s : Source) : UInt64 := (s.descriptors.map Descriptor.identity).foldl (· + ·) 0

/-- A scrape of one source. -/
def collect (look : Nat → Monitors) : Source → Source × List Family
  | .monitors n c =>
    let (c, fs) := c.collect (look n)
    (.monitors n c, fs)
  | .counter d v =>
    (.counter d v, [⟨d.name, d.help, .counter, [⟨Collector.labels d [], v⟩]⟩])

end Source

/-- A registry of metrics. -/
structure Registry where
  /-- Put in front of every name. -/
  front : Option String := none
  /-- Added to the labels of every sample. -/
  labels : List (String × String) := []
  sources : List Source := []
  /-- The metrics that are registered. -/
  identities : List UInt64 := []
  /-- What the metrics of each name agree in. -/
  dimensions : List (String × UInt64) := []
deriving Repr

namespace Registry

variable {σ : Type}

/-- A registry with a name in front and labels for all samples. -/
def custom (front : Option String) (labels : List (String × String)) :
    Except MetricError Registry :=
  if front == some "" then .error .emptyPrefix else .ok { front := front, labels := labels }

/-! ## Registering -/

/-- The registry with what the metrics of a name agree in, unless they do not agree. -/
def agreeing? (r : Registry) (d : Descriptor) : Option Registry :=
  match r.dimensions.find? (·.1 == d.name) with
  | some (_, known) => if known == d.dimensions then some r else none
  | none => some { r with dimensions := r.dimensions ++ [(d.name, d.dimensions)] }

/-- Looks whether descriptors can be registered, one after the other, behind those of the same
source that can. What the metrics of a name agree in is kept also when a later one does not pass. -/
def accept (r : Registry) (passed : List UInt64) :
    List Descriptor → Registry × Option MetricError
  | [] => (r, none)
  | d :: ds =>
    if r.identities.contains d.identity then (r, some .duplicate)
    else match r.agreeing? d with
      | none => (r, some (.inconsistent d.dump))
      | some r =>
        if passed.contains d.identity then (r, some (.repeated d.name))
        else r.accept (passed ++ [d.identity]) ds

/-- Registers a source. -/
def register (r : Registry) (s : Source) : Registry × Except MetricError Unit :=
  match r.accept [] s.descriptors with
  | (r, some e) => (r, .error e)
  | (r, none) =>
    if (r.sources.map Source.identity).contains s.identity then (r, .error .duplicate)
    else ({ r with
      sources := r.sources ++ [s]
      identities := r.identities ++ s.descriptors.map Descriptor.identity }, .ok ())

/-- The part of the program that these events come from. -/
def target : String := "perfdbg_prometheus::backend"

/-- Registers the monitored values with a number as those of an agent in a namespace. -/
def registerMonitors (r : Registry) (ns agent : String) (number : Nat) :
    Registry × Except RegistryError String :=
  match sanitizeText? ns with
  | none => (r, .error (.invalidNamespace ns))
  | some clean =>
    match Collector.make clean agent with
    | .error e => (r, .error (.backend e.message))
    | .ok c =>
      match r.register (.monitors number c) with
      | (r, .ok _) => (r, .ok clean)
      | (r, .error .duplicate) => (r, .error (.alreadyRegistered agent))
      | (r, .error e) => (r, .error (.backend e.message))

/-- The event of a registration in a namespace. -/
def registered (clean agent : String) : Log.Event :=
  ⟨.debug, target, "debug monitors registered",
    [("namespace", .shown clean), ("name", .text agent)]⟩

/-- Changes a registry that is part of the collaborators' state. -/
def changing {α : Type} (p : Part σ Registry) (f : Registry → Registry × α) : Act σ α := do
  let (r, a) := f (p.view (← Act.state))
  Act.update (p.put · r)
  return a

/-- `registerMonitors` on a registry that is part of the collaborators' state. -/
def registerIn (p : Part σ Registry) (ns agent : String) (number : Nat) :
    Act σ (Except RegistryError Unit) := do
  match ← changing p (·.registerMonitors ns agent number) with
  | .ok clean =>
    Act.emit (registered clean agent)
    return .ok ()
  | .error e => return .error e

/-! ## Scraping -/

/-- Lets every source give its samples. -/
def collectAll (look : Nat → Monitors) : List Source → List Source × List Family
  | [] => ([], [])
  | s :: ss =>
    let (s, fs) := s.collect look
    let (ss, gs) := collectAll look ss
    (s :: ss, fs ++ gs)

/-- A family with what the registry adds to names and labels. -/
def adorned (r : Registry) (f : Family) : Family :=
  { f with
    name := match r.front with
      | some front => front ++ "_" ++ f.name
      | none => f.name
    samples := f.samples.map fun s => { s with labels := s.labels ++ r.labels } }

/-- A scrape: the families by name, and the registry after it. -/
def scrape (r : Registry) (look : Nat → Monitors) : Registry × List Family :=
  let (sources, fs) := collectAll look r.sources
  ({ r with sources := sources }, (merged fs).map r.adorned)

/-- A scrape as text. -/
def render (r : Registry) (look : Nat → Monitors) : Registry × String :=
  let (r, fs) := r.scrape look
  (r, exposition fs)

/-- `scrape` on a registry that is part of the collaborators' state. -/
def scrapeIn (p : Part σ Registry) : Act σ (List Family) := do
  let look ← Act.monitored
  changing p (·.scrape look)

/-- `render` on a registry that is part of the collaborators' state. -/
def renderIn (p : Part σ Registry) : Act σ String := do
  let look ← Act.monitored
  changing p (·.render look)

end Registry

end SelfTrace.Metrics
