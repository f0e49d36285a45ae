import SelfTrace.Text.Digits
import SelfTrace.Text.Order

/-!
# Families of samples

A scrape answers families: the samples of all metrics of one name. `exposition` writes families as
text: a line of help, a line of type and a line for each sample.
-/

namespace SelfTrace.Metrics

/-- What the value of a metric means. -/
inductive Kind where
  | counter
  | gauge
deriving DecidableEq, Repr

def Kind.name : Kind → String
  | .counter => "counter"
  | .gauge => "gauge"

/-- One value with its labels. -/
structure Sample where
  labels : List (String × String)
  value : Nat
deriving DecidableEq, Repr

namespace Sample

/-- The values of the labels. -/
def labelValues (s : Sample) : List String := s.labels.map (·.2)

/-- Fewer labels first, then by the values of the labels in order. -/
def le (s t : Sample) : Bool :=
  s.labels.length < t.labels.length ||
    (s.labels.length == t.labels.length && Text.notAfter s.labelValues t.labelValues)

end Sample

/-- The samples of all metrics of one name. -/
structure Family where
  name : String
  help : String
  kind : Kind
  samples : List Sample
deriving DecidableEq, Repr

/-! ## Merging -/

/-- Adds a family to others: its samples go to the one of its name, if there is one. -/
def addFamily (fs : List Family) (f : Family) : List Family :=
  if f.samples.isEmpty then fs
  else if fs.any (·.name == f.name) then
    fs.map fun g => if g.name == f.name then { g with samples := g.samples ++ f.samples } else g
  else fs ++ [f]

/-- One family per name, by name, the samples of each in order. -/
def merged (fs : List Family) : List Family :=
  ((fs.foldl addFamily []).mergeSort fun f g => f.name ≤ g.name).map fun f =>
    { f with samples := f.samples.mergeSort Sample.le }

/-! ## Text -/

/-- A character of a help text or, within quotes, of a label's value. -/
def escapedIn (quotes : Bool) (c : Char) : List Char :=
  if c == '\\' then ['\\', '\\']
  else if c == '\n' then ['\\', 'n']
  else if quotes && c == '"' then ['\\', '"']
  else [c]

def escapedText (quotes : Bool) (s : String) : String :=
  String.ofList (s.toList.flatMap (escapedIn quotes))

/-- Labels in braces; no labels, no braces. -/
def labelText (labels : List (String × String)) : String :=
  if labels.isEmpty then ""
  else "\x7b" ++ ",".intercalate
    (labels.map fun p => p.1 ++ "=\"" ++ escapedText true p.2 ++ "\"") ++ "\x7d"

/-- The line of a sample. -/
def sampleLine (name : String) (s : Sample) : String :=
  name ++ labelText s.labels ++ " " ++ Text.decimalText s.value ++ "\n"

/-- The lines of a family. -/
def Family.text (f : Family) : String :=
  (if f.help.isEmpty then ""
    else "# HELP " ++ f.name ++ " " ++ escapedText false f.help ++ "\n") ++
  "# TYPE " ++ f.name ++ " " ++ f.kind.name ++ "\n" ++
  String.join (f.samples.map (sampleLine f.name))

/-- The text of some families. -/
def exposition (fs : List Family) : String := String.join (fs.map Family.text)

end SelfTrace.Metrics
