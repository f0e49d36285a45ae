import SelfTrace.Environment
import SelfTrace.InputError
import SelfTrace.Json.Basic
import SelfTrace.Json.Decoder
import SelfTrace.Text.Utf8

/-!
# Configuration of the agent

What an agent needs to know, from JSON text and from the environment. Main statements:

* `overlay_overlay` — overlaying twice is overlaying once with both environments;
* `validate_overlay` — an overlay never spoils a valid configuration.
-/

namespace SelfTrace

/-- Configuration of the agent. -/
structure Config where
  /-- Namespace of the monitors. -/
  metricsNamespace : String := "perfdbg"
  /-- Name of the monitors. -/
  agentName : Option String := none
  /-- Tool searched for when no location is given. -/
  agentBinary : String := "bpftrace"
  /-- Location of the tool. -/
  agentPath : Option Bytes := none
  /-- Rule script handed to the tool. -/
  scriptResource : String := "debug/agent.bt"
  /-- Directory whose scripts replace the built-in ones. -/
  overlayDir : Option Bytes := none
  /-- Whether the tool opens a listener of its own. -/
  listener : Bool := false
  /-- How long a new tool is watched, in milliseconds. -/
  settleMs : UInt64 := 250
deriving DecidableEq, Repr

namespace Config

/-- Name of the monitors when none is given. -/
def defaultAgentName : String := "perfdbg-debug"

/-! ## Environment -/

/-- The configuration with the values of an environment in place of its own; blank ones are
ignored. -/
def overlay (c : Config) (env : Environment) : Config :=
  { c with
    agentPath := ((env.get? Environment.agentPath).map Text.octets).or c.agentPath
    metricsNamespace := (env.get? Environment.metricsNamespace).getD c.metricsNamespace
    overlayDir := ((env.get? Environment.scriptOverlay).map Text.octets).or c.overlayDir }

/-- Name of the monitors: from the environment, else from the configuration, else the default. -/
def resolvedAgentName (c : Config) (env : Environment) : String :=
  ((env.get? Environment.agentName).or (Text.nonBlank? c.agentName)).getD defaultAgentName

/-! ## Validity -/

/-- Refuses a configuration that names no namespace, tool or script. -/
def validate (c : Config) : Except InputError Unit :=
  if Text.blank c.metricsNamespace then .error (.invalidConfig "namespace cannot be empty")
  else if Text.blank c.agentBinary && c.agentPath.isNone then
    .error (.invalidConfig "either agentBinary or agentPath must be set")
  else if Text.blank c.scriptResource then
    .error (.invalidConfig "scriptResource cannot be empty")
  else .ok ()

/-! ## JSON -/

/-- A path as a JSON string; `none` when it is no text. -/
def pathJson? : Option Bytes → Option Json
  | none => some .null
  | some path => (Text.text? path).map .string

def optionJson : Option String → Json
  | none => .null
  | some s => .string s

/-- The configuration as a JSON document; `none` when a path is no text. -/
def toJson? (c : Config) : Option Json := do
  let agentPath ← pathJson? c.agentPath
  let overlayDir ← pathJson? c.overlayDir
  return .object [
    ("namespace", .string c.metricsNamespace),
    ("agentName", optionJson c.agentName),
    ("agentBinary", .string c.agentBinary),
    ("agentPath", agentPath),
    ("scriptResource", .string c.scriptResource),
    ("overlayDir", overlayDir),
    ("listener", .bool c.listener),
    ("settleMs", .number c.settleMs.toNat)]

/-- A path in JSON text. -/
def readPath : Json.Reader Bytes := do return Text.octets (← Json.readText "path string")

/-- The fields of a configuration in JSON text. -/
def fields : List (Json.Field Config) := [
  ⟨"namespace", fun c => do return { c with metricsNamespace := ← Json.readString }⟩,
  ⟨"agentName", fun c => do return { c with agentName := ← Json.readOption Json.readString }⟩,
  ⟨"agentBinary", fun c => do return { c with agentBinary := ← Json.readString }⟩,
  ⟨"agentPath", fun c => do return { c with agentPath := ← Json.readOption readPath }⟩,
  ⟨"scriptResource", fun c => do return { c with scriptResource := ← Json.readString }⟩,
  ⟨"overlayDir", fun c => do return { c with overlayDir := ← Json.readOption readPath }⟩,
  ⟨"listener", fun c => do return { c with listener := ← Json.readBool }⟩,
  ⟨"settleMs", fun c => do
    return { c with settleMs := UInt64.ofNat (← Json.readUnsigned Json.maxUnsigned "u64") }⟩]

/-- A configuration in JSON text. -/
def reader : Json.Reader Config := Json.readRecord "struct DebugConfig" fields {}

/-- The configuration that a JSON text writes. -/
def ofJsonText (text : String) : Except Json.Problem Config := Json.readDocument reader text

/-! ## Laws of the overlay -/

theorem overlay_overlay (c : Config) (older newer : Environment) :
    (c.overlay older).overlay newer = c.overlay (older.overlaid newer) := by
  have key : ∀ name, (older.overlaid newer).get? name = (newer.get? name).or (older.get? name) := by
    intro name
    simp only [Environment.get?, Environment.overlaid, Text.nonBlank?]
    cases h : Option.filter (fun x => !Text.blank x) (newer name) with
    | none => simp
    | some v => simp [(Option.filter_eq_some_iff.1 h).2]
  simp only [overlay, key]
  cases newer.get? Environment.agentPath <;> cases newer.get? Environment.metricsNamespace <;>
    cases newer.get? Environment.scriptOverlay <;> simp

theorem validate_eq_ok_iff (c : Config) :
    c.validate = .ok () ↔
      Text.blank c.metricsNamespace = false ∧
      (Text.blank c.agentBinary = false ∨ c.agentPath.isSome) ∧
      Text.blank c.scriptResource = false := by
  unfold validate
  cases h₁ : Text.blank c.metricsNamespace <;> cases h₂ : Text.blank c.agentBinary <;>
    cases h₃ : c.agentPath <;> cases h₄ : Text.blank c.scriptResource <;> simp

theorem validate_overlay (c : Config) (env : Environment) (h : c.validate = .ok ()) :
    (c.overlay env).validate = .ok () := by
  rw [validate_eq_ok_iff] at h ⊢
  obtain ⟨hn, ha, hs⟩ := h
  refine ⟨?_, ?_, hs⟩
  · simp only [overlay]
    cases hv : env.get? Environment.metricsNamespace with
    | none => exact hn
    | some v => simpa using (Option.filter_eq_some_iff.1 hv).2
  · rcases ha with ha | ha
    · exact .inl ha
    · right
      simp only [overlay]
      cases env.get? Environment.agentPath <;> simp [ha]

end Config

end SelfTrace
