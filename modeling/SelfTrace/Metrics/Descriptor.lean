import SelfTrace.Metrics.Fingerprint
import SelfTrace.Metrics.Name
import SelfTrace.Text.Quoted

/-!
# Descriptors of metrics

A descriptor gives a metric its full name, its help text and its labels: constant ones with their
values and variable ones. Two metrics count as the same if the fingerprints of name and constant
values agree; metrics of one name must agree in the fingerprints of help text and labels.
-/

namespace SelfTrace.Metrics

/-- Why the registry refuses something. -/
inductive MetricError where
  | emptyHelp
  | badMetricName (name : String)
  | badLabelName (name : String)
  | duplicate
  | inconsistent (descriptor : String)
  | repeated (name : String)
  | emptyPrefix
deriving DecidableEq, Repr

def MetricError.message : MetricError → String
  | .emptyHelp => "Error: empty help string"
  | .badMetricName name => "Error: '" ++ name ++ "' is not a valid metric name"
  | .badLabelName name => "Error: '" ++ name ++ "' is not a valid label name"
  | .duplicate => "Duplicate metrics collector registration attempted"
  | .inconsistent descriptor =>
    "Error: a previously registered descriptor with the same fully-qualified name as " ++
      descriptor ++ " has different label names or a different help string"
  | .repeated name =>
    "Error: a duplicate descriptor within the same collector the same fully-qualified name: " ++
      Text.quoted name
  | .emptyPrefix => "Error: empty prefix namespace"

/-- What a metric is called and how it is labelled. -/
structure Descriptor where
  name : String
  help : String
  /-- Labels with a fixed value, in the order of their names. -/
  fixed : List (String × String)
  /-- Labels whose values the samples give. -/
  varying : List String
deriving DecidableEq, Repr

namespace Descriptor

/-- The descriptor of a metric, unless a name is not valid. -/
def make (name help : String) (fixed : List (String × String)) (varying : List String) :
    Except MetricError Descriptor :=
  let fixed := fixed.mergeSort fun a b => a.1 ≤ b.1
  if help.isEmpty then .error .emptyHelp
  else if !validMetricName name.toList then .error (.badMetricName name)
  else match (fixed.map (·.1) ++ varying).find? fun l => !validLabelName l.toList with
    | some l => .error (.badLabelName l)
    | none => .ok ⟨name, help, fixed, varying⟩

/-- What makes a metric the same as another: its name and the values of its fixed labels. -/
def identityTexts (d : Descriptor) : List String := d.name :: d.fixed.map (·.2)

/-- What metrics of one name must agree in: help text and labels, a mark in front of those whose
values vary. -/
def dimensionTexts (d : Descriptor) : List String :=
  d.help :: (d.fixed.map (·.1) ++ d.varying.map ("$" ++ ·)).mergeSort fun a b => a ≤ b

/-- The fingerprint by which a metric is known. -/
def identity (d : Descriptor) : UInt64 := fingerprint d.identityTexts

/-- The fingerprint in which metrics of one name must agree. -/
def dimensions (d : Descriptor) : UInt64 := fingerprint d.dimensionTexts

/-- The descriptor in full. -/
def dump (d : Descriptor) : String :=
  "Desc \x7b fq_name: " ++ Text.quoted d.name ++ ", help: " ++ Text.quoted d.help ++
    ", const_label_pairs: [" ++
    ", ".intercalate (d.fixed.map fun p => Text.quoted p.1 ++ "=" ++ Text.quoted p.2) ++
    "], variable_labels: [" ++ ", ".intercalate (d.varying.map Text.quoted) ++ "] \x7d"

end Descriptor

end SelfTrace.Metrics
