import SelfTrace.InputError
import SelfTrace.Json.Basic
import SelfTrace.Json.Decoder
import SelfTrace.Text.Blank

/-!
# States of an agent

An agent starts uninitialized and is attached, or has failed to, once its start is over. The
states have a label, a name in JSON and a few spellings that are read.
-/

namespace SelfTrace

/-- How far an agent has come. -/
inductive AgentState where
  | uninitialized
  | attachFailed
  | attached
deriving DecidableEq, Repr

namespace AgentState

/-- A state that does not change any more. -/
def isTerminal : AgentState → Bool
  | .uninitialized => false
  | _ => true

/-- The label of a state in messages. -/
def label : AgentState → String
  | .uninitialized => "uninitialized"
  | .attachFailed => "attach-failed"
  | .attached => "attached"

/-- The name of a state in descriptions. -/
def name : AgentState → String
  | .uninitialized => "Uninitialized"
  | .attachFailed => "AttachFailed"
  | .attached => "Attached"

/-- The name of a state in JSON text. -/
def jsonName : AgentState → String
  | .uninitialized => "uninitialized"
  | .attachFailed => "attachFailed"
  | .attached => "attached"

/-- The text as it is compared: without blanks around it, ASCII letters in lower case. -/
def normalized (s : String) : String :=
  String.ofList ((Text.trim s.toList).map Char.toLower)

/-- The state that a text names; a text that names none is reported normalized. -/
def parse (s : String) : Except InputError AgentState :=
  let t := normalized s
  if t == "uninitialized" then .ok .uninitialized
  else if t == "attach-failed" || t == "attachfailed" || t == "failed" then .ok .attachFailed
  else if t == "attached" then .ok .attached
  else .error (.unknownState t)

def toJson (s : AgentState) : Json := .string s.jsonName

/-- The states with their names in JSON text. -/
def jsonNames : List (String × AgentState) :=
  [AgentState.uninitialized, .attachFailed, .attached].map fun s => (s.jsonName, s)

/-- A state from JSON text. -/
def reader : Json.Reader AgentState := Json.readState jsonNames

end AgentState

end SelfTrace
