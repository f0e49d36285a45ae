import SelfTrace.Introspection.Introspector

/-!
# Probes for the own process id

A probe is one strategy for finding out the id of the own process:

* `Probe.procStat` reads the number in front of a status file;
* `Probe.marker` publishes a fresh token and looks for the process that shows it;
* `Probe.runtimeName` takes the id out of the name `id@host` and confirms it by a fresh token.

`resolve` runs probes in order until one succeeds.
-/

namespace SelfTrace

variable {σ τ : Type}

/-! ## Errors -/

/-- Why a probe found no id. -/
inductive ProbeError where
  | unavailable (source : String)
  | malformed (reason : String)
  | notFound
  | mismatch (pid : ProcessId)
  | introspect (cause : IntrospectError)
deriving DecidableEq, Repr

/-- The kind of an error by name. -/
def ProbeError.name : ProbeError → String
  | .unavailable _ => "Unavailable"
  | .malformed _ => "Malformed"
  | .notFound => "NotFound"
  | .mismatch _ => "Mismatch"
  | .introspect _ => "Introspect"

def ProbeError.message : ProbeError → String
  | .unavailable source => "source unavailable: " ++ source
  | .malformed reason => "malformed input: " ++ reason
  | .notFound => "no candidate exposes the marker"
  | .mismatch pid => "candidate " ++ pid.text ++ " does not expose the marker"
  | .introspect cause => "introspection failed: " ++ cause.message

/-! ## Probes -/

/-- One strategy, with its name. -/
structure Probe (σ : Type) where
  name : String
  run : Act σ (Except ProbeError ProcessId)

namespace Probe

/-- How many octets of a status file are read; no id has more digits. -/
def statBudget : Nat := 10

/-- The octet of an ASCII digit. -/
def isDigitOctet (b : UInt8) : Bool := 0x30 ≤ b && b ≤ 0x39

/-- The id in front of a status file. -/
def leadingId (front : Bytes) : Except ProbeError ProcessId :=
  let ds := front.takeWhile isDigitOctet
  if ds.isEmpty then .error (.malformed "no leading pid")
  else match ProcessId.parse (Text.lossyText ds) with
    | .ok pid => .ok pid
    | .error e => .error (.malformed e.message)

/-- Reads the number in front of a status file. -/
def procStat (path : Path) : Probe σ where
  name := "proc-stat"
  run := do
    match ← Act.look (·.readFront path statBudget) with
    | .error e => return .error (.unavailable (Text.lossyText path ++ ": " ++ e.message))
    | .ok front => return leadingId front

/-- The first of some processes that shows a value under a key. -/
def firstShowing (i : Introspector σ τ) (key value : String) :
    List ProcessId → Act σ (Option ProcessId)
  | [] => return none
  | pid :: pids => do
    if (← readProperty i pid key) == some value then return some pid
    else firstShowing i key value pids

/-- Publishes a fresh token and looks for the process that shows it. -/
def marker (i : Introspector σ τ) : Probe σ where
  name := "marker"
  run := do
    let token ← Act.freshToken
    let found ← publishing i markerKey token do
      match ← i.candidates with
      | .error e => return Except.error (.introspect e)
      | .ok pids =>
        Act.emit ⟨.trace, "perfdbg_core::resolver::marker", "scanning attachable processes",
          [("candidates", .int pids.length)]⟩
        match ← firstShowing i markerKey token pids with
        | some pid => return .ok pid
        | none => return .error .notFound
    match found with
    | .ok r => return r
    | .error e => return .error (.introspect e)

/-- The id in front of the first `@` of a runtime's name. -/
def nameId (name : String) : Except ProbeError ProcessId :=
  let cs := name.toList
  if cs.contains '@' then
    match ProcessId.parse (String.ofList (cs.takeWhile (· != '@'))) with
    | .ok pid => .ok pid
    | .error e => .error (.malformed e.message)
  else .error (.malformed ("runtime name '" ++ name ++ "' has no '@'"))

/-- Takes the id out of the runtime's name and confirms it by a fresh token. -/
def runtimeName (source : Act σ (Option String)) (i : Introspector σ τ) : Probe σ where
  name := "runtime-name"
  run := do
    match ← source with
    | none => return .error (.unavailable "runtime name")
    | some name =>
      match nameId name with
      | .error e => return .error e
      | .ok pid =>
        let token ← Act.freshToken
        match ← publishing i markerKey token (readProperty i pid markerKey) with
        | .error e => return .error (.introspect e)
        | .ok value =>
          if value == some token then return .ok pid else return .error (.mismatch pid)

end Probe

/-! ## The chain -/

/-- The part of the program that these events come from. -/
def resolverTarget : String := "perfdbg_core::resolver"

/-- The id that the first successful probe finds; a failing probe is noted and the next one runs. -/
def resolve : List (Probe σ) → Act σ (Option ProcessId)
  | [] => return none
  | p :: ps => do
    match ← p.run with
    | .ok pid =>
      Act.emit ⟨.trace, resolverTarget, "process id resolved",
        [("probe", .text p.name), ("pid", .shown pid.text)]⟩
      return some pid
    | .error e =>
      Act.emit ⟨.debug, resolverTarget, "probe failed, falling through: " ++ e.message,
        [("probe", .text p.name)]⟩
      resolve ps

/-- The status file of the own process. -/
def ownStatus : Path := Text.octets "/proc/self/stat"

/-- Status file, marker, runtime name, in this order. -/
def standardProbes (source : Act σ (Option String)) (i : Introspector σ τ) : List (Probe σ) :=
  [.procStat ownStatus, .marker i, .runtimeName source i]

end SelfTrace
