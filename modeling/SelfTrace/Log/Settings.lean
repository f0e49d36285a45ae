import SelfTrace.Environment
import SelfTrace.Json.Basic
import SelfTrace.Json.Decoder
import SelfTrace.Log.Format
import SelfTrace.Log.Level

/-!
# Settings of the log

How the log is written, from JSON text and from the environment. The same texts are accepted either
way, with the same words where they are not. Definitions that end in `With` leave open which
expressions are filters.
-/

namespace SelfTrace.Log

/-- How the log is written. -/
structure Settings where
  format : Format := .text
  level : Level := Level.default
  zone : Zone := .utc
  /-- Whether events show the part of the program they come from. -/
  withTargets : Bool := true
  /-- Whether a terminal may be given colours. -/
  useColor : Bool := true
deriving DecidableEq, Repr

namespace Settings

variable {φ : Type}

/-! ## Environment -/

/-- The value of a variable, read by a parser; the field's own value where it is not set. -/
def fromVariable {α : Type} (env : Environment) (name : String)
    (parse : String → Except LogError α) (own : α) : Except LogError α :=
  match env.get? name with
  | none => .ok own
  | some v =>
    match parse v with
    | .ok a => .ok a
    | .error e => .error (.env name e)

/-- The settings with the values of an environment in place of their own; blank ones are ignored. -/
def overlayWith (read : FilterReader φ) (s : Settings) (env : Environment) :
    Except LogError Settings := do
  let format ← fromVariable env Environment.logFormat Format.parse s.format
  let level ← fromVariable env Environment.logLevel (Level.parseWith read) s.level
  let zone ← fromVariable env Environment.logZone Zone.parse s.zone
  return { s with format := format, level := level, zone := zone }

def overlay (s : Settings) (env : Environment) : Except LogError Settings :=
  s.overlayWith Filter.read env

/-- Colours are used if they are wanted and the output is a terminal. -/
def usesColor (s : Settings) (terminal : Bool) : Bool := s.useColor && terminal

/-! ## JSON -/

/-- The members that the settings are written as. -/
def members (s : Settings) : List (String × Json) := [
  ("format", .string s.format.name),
  ("level", .string s.level.text),
  ("tz", .string s.zone.name),
  ("with_targets", .bool s.withTargets),
  ("use_color", .bool s.useColor)]

def toJson (s : Settings) : Json := .object s.members

/-- A parser with its errors in words. -/
def inWords {α : Type} (parse : String → Except LogError α) (s : String) : Except String α :=
  match parse s with
  | .ok a => .ok a
  | .error e => .error e.message

def formatReader : Json.Reader Format := Json.readParsed (inWords Format.parse)

def levelReaderWith (read : FilterReader φ) : Json.Reader Level :=
  Json.readParsed (inWords (Level.parseWith read))

def levelReader : Json.Reader Level := levelReaderWith Filter.read

def zoneReader : Json.Reader Zone := Json.readParsed (inWords Zone.parse)

/-- The fields of the settings in JSON text. -/
def fieldsWith (read : FilterReader φ) : List (Json.Field Settings) := [
  ⟨"format", fun s => do return { s with format := ← formatReader }⟩,
  ⟨"level", fun s => do return { s with level := ← levelReaderWith read }⟩,
  ⟨"tz", fun s => do return { s with zone := ← zoneReader }⟩,
  ⟨"with_targets", fun s => do return { s with withTargets := ← Json.readBool }⟩,
  ⟨"use_color", fun s => do return { s with useColor := ← Json.readBool }⟩]

/-- Settings in JSON text. -/
def readerWith (read : FilterReader φ) : Json.Reader Settings :=
  Json.readRecord "struct LoggerConfig" (fieldsWith read) {}

/-- The settings that a JSON text writes. -/
def ofJsonTextWith (read : FilterReader φ) (text : String) : Except Json.Problem Settings :=
  Json.readDocument (readerWith read) text

def ofJsonText (text : String) : Except Json.Problem Settings := ofJsonTextWith Filter.read text

end Settings

end SelfTrace.Log
