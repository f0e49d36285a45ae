import SelfTrace.Metrics.Descriptor
import SelfTrace.Metrics.Family
import SelfTrace.Monitors

/-!
# Collecting monitored values

A collector exposes the monitored values of one agent. It keeps what it has exposed: the series of
its gauge and the value of its counter, and brings both up to date at each scrape.
-/

namespace SelfTrace.Metrics

/-! ## Series of a gauge -/

/-- The series of a gauge with one variable label: the value of the label, and that of the gauge. -/
abbrev Series := List (String × Nat)

namespace Series

/-- Gives all series up. -/
def reset (_ : Series) : Series := []

/-- Makes the series for a value of the label, unless there is one; it starts at zero. -/
def withLabel (series : Series) (label : String) : Series :=
  if series.any (·.1 == label) then series else series ++ [(label, 0)]

/-- Sets the series for a value of the label. -/
def set (series : Series) (label : String) (value : Nat) : Series :=
  series.map fun s => if s.1 == label then (s.1, value) else s

/-- Once the others are given up there is the one series that is set. -/
theorem set_withLabel_reset (series : Series) (label : String) (value : Nat) :
    (series.reset.withLabel label).set label value = [(label, value)] := by
  simp [reset, withLabel, set]

end Series

/-! ## Collectors -/

/-- Exposes the monitored values of one agent. -/
structure Collector where
  /-- The gauge that names the generator. -/
  generator : Descriptor
  /-- The counter of sender tasks. -/
  tasks : Descriptor
  /-- The series of the gauge. -/
  series : Series := []
  /-- The value of the counter. -/
  exported : UInt64 := 0
deriving Repr

namespace Collector

/-- The collector of an agent's values in a namespace. -/
def make (ns agent : String) : Except MetricError Collector :=
  match Descriptor.make (qualified ns "generator_info") "Workload generator currently in use"
      [("agent", agent)] ["generator"] with
  | .error e => .error e
  | .ok generator =>
    match Descriptor.make (qualified ns "sender_tasks_total")
        "Total number of sender tasks created" [("agent", agent)] [] with
    | .error e => .error e
    | .ok tasks => .ok { generator := generator, tasks := tasks }

/-- The descriptors of a collector. -/
def descriptors (c : Collector) : List Descriptor := [c.generator, c.tasks]

/-- Gives the series up and makes one for the generator in use. -/
def nameGenerator (c : Collector) (generator : String) : Collector :=
  { c with series := (c.series.reset.withLabel generator).set generator 1 }

/-- Raises the counter by what has come to it. -/
def countTasks (c : Collector) (total : UInt64) : Collector :=
  if c.exported < total then { c with exported := c.exported + (total - c.exported) } else c

/-- Brings a collector up to date. -/
def update (c : Collector) (m : Monitors) : Collector :=
  (c.nameGenerator m.generatorName).countTasks m.senderTasks

@[simp] theorem nameGenerator_series (c : Collector) (generator : String) :
    (c.nameGenerator generator).series = [(generator, 1)] :=
  Series.set_withLabel_reset c.series generator 1

theorem countTasks_eq (c : Collector) (total : UInt64) :
    c.countTasks total = { c with exported := (c.countTasks total).exported } := by
  unfold countTasks
  split <;> rfl

/-- An update changes the series and the counter, and there is one series after it. -/
theorem update_eq (c : Collector) (m : Monitors) :
    c.update m = { c with
      series := [(m.generatorName, 1)]
      exported := (c.update m).exported } := by
  rw [update, countTasks_eq, ← nameGenerator_series c m.generatorName]
  rfl

/-- The labels of a sample, by name. -/
def labels (d : Descriptor) (values : List String) : List (String × String) :=
  (d.fixed ++ d.varying.zip values).mergeSort fun a b => a.1 ≤ b.1

/-- What a collector exposes. -/
def families (c : Collector) : List Family := [
  ⟨c.generator.name, c.generator.help, .gauge,
    c.series.map fun s => ⟨labels c.generator [s.1], s.2⟩⟩,
  ⟨c.tasks.name, c.tasks.help, .counter, [⟨labels c.tasks [], c.exported.toNat⟩]⟩]

/-- A scrape of one collector. -/
def collect (c : Collector) (m : Monitors) : Collector × List Family :=
  let c := c.update m
  (c, c.families)

end Collector

end SelfTrace.Metrics
