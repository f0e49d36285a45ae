import SelfTrace.Json.Basic
import SelfTrace.Log.Event
import SelfTrace.Log.Settings
import SelfTrace.Log.Timestamp

/-!
# Layouts of events

An event as a line of text, or as a line with a JSON object. Every line starts with the time.
-/

namespace SelfTrace.Log

/-- The name of the thread that writes the log. -/
def threadName : String := "main"

/-- The time at the start of a line. -/
def timeText (nanos : Nat) (offset : Int) : String :=
  match stamp nanos offset with
  | some t => t ++ " "
  | none => "<invalid-time> "

/-! ## Text -/

/-- A character of a message. Controls that a terminal would obey are written by their number. -/
def messageChar (c : Char) : List Char :=
  let n := c.toNat
  if n == 0x1B || n == 0x07 || n == 0x08 || n == 0x0C || n == 0x7F then
    let ds := Text.hex n
    ['\\', 'x'] ++ List.replicate (2 - ds.length) '0' ++ ds
  else if 0x80 ≤ n && n ≤ 0x9F then ['\\', 'u', '\x7b'] ++ Text.hex n ++ ['\x7d']
  else [c]

/-- The message of a line of text. -/
def messageText (s : String) : String := String.ofList (s.toList.flatMap messageChar)

/-- A field of a line of text: texts in quotes, all else bare. -/
def fieldText (f : String × FieldValue) : String :=
  f.1 ++ "=" ++ match f.2 with
    | .text s => Text.quoted s
    | v => v.bare

/-- A severity at the width of the longest. -/
def severityText (s : Severity) : String :=
  String.ofList (List.replicate (5 - s.name.length) ' ') ++ s.name

/-- An event as a line of text. -/
def textLine (s : Settings) (time : String) (e : Event) : String :=
  let front := if s.withTargets then e.target ++ ": " else ""
  time ++ " " ++ severityText e.severity ++ " " ++ threadName ++ " " ++ front ++
    " ".intercalate (messageText e.message :: e.fields.map fieldText)

/-! ## JSON -/

/-- A field's value in JSON. -/
def FieldValue.toJson : FieldValue → Json
  | .shown s => .string s
  | .text s => .string s
  | .int n => .number n
  | .bool b => .bool b

/-- An event as a line with a JSON object. -/
def jsonLine (s : Settings) (time : String) (e : Event) : String :=
  let target := if s.withTargets then [("target", Json.string e.target)] else []
  Json.text (.object ([
    ("timestamp", .string time),
    ("level", .string e.severity.name),
    ("fields", .object (("message", .string e.message) :: e.fields.map fun f => (f.1, f.2.toJson)))]
    ++ target ++ [("threadName", .string threadName)]))

end SelfTrace.Log
