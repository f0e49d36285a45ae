import SelfTrace.Text.Quoted

/-!
# Events of the log

An event has a severity, the part of the program it comes from (`target`), a message and named
fields in their order. A field that is a text is written bare or quoted, depending on the reader;
a value that is shown in its own words is written bare everywhere.
-/

namespace SelfTrace.Log

/-- How serious an event is, the most serious first. -/
inductive Severity where
  | error
  | warn
  | info
  | debug
  | trace
deriving DecidableEq, Repr

namespace Severity

/-- The name of a severity in the log. -/
def name : Severity → String
  | .error => "ERROR"
  | .warn => "WARN"
  | .info => "INFO"
  | .debug => "DEBUG"
  | .trace => "TRACE"

/-- All severities, the most serious first. -/
def all : List Severity := [.error, .warn, .info, .debug, .trace]

/-- The severity with a name, in any case. -/
def ofName? (name : String) : Option Severity :=
  all.find? fun s => s.name.toList == name.toList.map Char.toUpper

/-- The rank of a severity: the more serious, the lower. -/
def rank : Severity → Nat
  | .error => 1
  | .warn => 2
  | .info => 3
  | .debug => 4
  | .trace => 5

end Severity

/-- The value of a field. -/
inductive FieldValue where
  | shown (text : String)
  | text (s : String)
  | int (n : Int)
  | bool (b : Bool)
deriving DecidableEq, Repr

/-- The value as bare text. -/
def FieldValue.bare : FieldValue → String
  | .shown s => s
  | .text s => s
  | .int n => Text.signedText n
  | .bool true => "true"
  | .bool false => "false"

/-- An event of the log. -/
structure Event where
  severity : Severity
  target : String
  message : String
  fields : List (String × FieldValue) := []
deriving DecidableEq, Repr

end SelfTrace.Log
