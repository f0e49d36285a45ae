import SelfTrace.Log.Error
import SelfTrace.Text.Blank

/-!
# Layouts and time zones of the log

The two settings that are names: how events are laid out, and in which time zone their time is
given. Names are read without regard to case or blanks around them.
-/

namespace SelfTrace.Log

/-- A text as names are compared: without blanks around it, ASCII letters in lower case. -/
def foldedName (s : String) : String := String.ofList ((Text.trim s.toList).map Char.toLower)

/-- How events are laid out. -/
inductive Format where
  | text
  | json
  | journald
deriving DecidableEq, Repr

namespace Format

def name : Format → String
  | .text => "text"
  | .json => "json"
  | .journald => "journald"

/-- The layout is for programs, not for a terminal. -/
def isStructured (f : Format) : Bool := f != .text

/-- The layout that a text names. -/
def parse (s : String) : Except LogError Format :=
  let t := foldedName s
  if t == "text" then .ok .text
  else if t == "json" then .ok .json
  else if t == "journald" then .ok .journald
  else .error (.invalidFormat s)

end Format

/-- The time zone of the log. -/
inductive Zone where
  | utc
  | localZone
deriving DecidableEq, Repr

namespace Zone

def name : Zone → String
  | .utc => "utc"
  | .localZone => "local"

/-- The time zone that a text names. -/
def parse (s : String) : Except LogError Zone :=
  let t := foldedName s
  if t == "utc" then .ok .utc
  else if t == "local" then .ok .localZone
  else .error (.invalidZone s)

end Zone

end SelfTrace.Log
