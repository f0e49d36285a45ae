import SelfTrace.Text.Blank

/-!
# Environment variables

An environment gives a text to some names. The names that this library reads or sets are listed
here.
-/

namespace SelfTrace

/-- The value of each variable that is set. -/
abbrev Environment := String → Option String

namespace Environment

/-- The environment in which nothing is set. -/
def empty : Environment := fun _ => none

/-- The environment of a list of variables; the first of one name counts. -/
def ofList (vars : List (String × String)) : Environment := fun name =>
  (vars.find? (·.1 == name)).map (·.2)

/-- The value of a variable that is set and not blank, as it is. -/
def get? (env : Environment) (name : String) : Option String := Text.nonBlank? (env name)

/-- The environment that takes the values of `newer` where they are not blank. -/
def overlaid (env newer : Environment) : Environment := fun name =>
  match newer.get? name with
  | some v => some v
  | none => env name

/-- The directory for temporary files. -/
def tempDir (env : Environment) : String := (env "TMPDIR").getD "/tmp"

/-! ## Names -/

/-- The name under which the monitors are registered. -/
def agentName : String := "PERFDBG_DEBUG_AGENT_NAME"

/-- The namespace of the monitors. -/
def metricsNamespace : String := "PERFDBG_DEBUG_NAMESPACE"

/-- The location of the tool. -/
def agentPath : String := "PERFDBG_AGENT_PATH"

/-- The options of an attach, set for the tool. -/
def agentOptions : String := "PERFDBG_AGENT_OPTIONS"

/-- The directory whose scripts replace the built-in ones. -/
def scriptOverlay : String := "PERFDBG_SCRIPT_OVERLAY"

/-- The layout of the log. -/
def logFormat : String := "PERFDBG_LOG_FORMAT"

/-- The filter of the log. -/
def logLevel : String := "PERFDBG_LOG_LEVEL"

/-- The time zone of the log. -/
def logZone : String := "PERFDBG_LOG_TZ"

end Environment

end SelfTrace
