import SelfTrace.Files.Failure
import SelfTrace.Log.Layout
import SelfTrace.Log.LocalTime

/-!
# The installed log

A process installs its log once. From then on the events that pass its filter are written, each as a
line with the time in the log's zone. The local offset is looked up once, on request or when it is
first needed.
-/

namespace SelfTrace.Log

/-- The log of a process. -/
structure Logger where
  /-- The settings it was installed with. -/
  installed : Option Settings := none
  /-- The local offset in seconds, once it was looked up. -/
  offset : Option Int := none
deriving Repr

namespace Logger

/-- Looks up the local offset at a moment. -/
def initOffset (l : Logger) (env : Environment) (nanos : Nat) : Logger :=
  { l with offset := some (localOffset (env "TZ") nanos) }

/-- Installs a log. `journald` is what opening the system's journal comes to. -/
def install (l : Logger) (s : Settings) (journald : Except Failure Unit) :
    Logger × Except LogError Unit :=
  match s.format, journald with
  | .journald, .error e => (l, .error (.journald e.message))
  | _, _ =>
    match l.installed with
    | some _ => (l, .error .alreadyInitialized)
    | none => ({ l with installed := some s }, .ok ())

/-- The offset of the times that a log writes. -/
def timeOffset (l : Logger) (env : Environment) (nanos : Nat) (s : Settings) : Int :=
  match s.zone with
  | .utc => 0
  | .localZone => l.offset.getD (localOffset (env "TZ") nanos)

/-- The line of an event, if it is written to the output at all. -/
def line? (l : Logger) (env : Environment) (nanos : Nat) (e : Event) : Option String := do
  let s ← l.installed
  if !s.level.filter.passes e then none
  else
    let time := timeText nanos (l.timeOffset env nanos s)
    match s.format with
    | .text => some (textLine s time e)
    | .json => some (jsonLine s time e)
    | .journald => none

/-- The lines of some events. -/
def lines (l : Logger) (env : Environment) (nanos : Nat) (es : List Event) : List String :=
  es.filterMap (l.line? env nanos)

end Logger

end SelfTrace.Log
