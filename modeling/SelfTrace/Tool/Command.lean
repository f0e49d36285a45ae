import SelfTrace.Environment
import SelfTrace.Files.Path
import SelfTrace.ProcessId
import SelfTrace.Scene
import SelfTrace.Text.Duration
import SelfTrace.Text.Quoted
import SelfTrace.Tool.Template

/-!
# The command that starts the tool

What a tool is started with, built from the template of its arguments. `validateTemplate` refuses a
template before any value is known; `build` fills it in.
-/

namespace SelfTrace

/-! ## Options -/

/-- What the tool is told about an attach. -/
structure AgentOptions where
  /-- Whether the tool opens a listener of its own. -/
  listener : Bool
  /-- The rule script. -/
  script : Path
deriving DecidableEq, Repr

/-- The options as one text. -/
def AgentOptions.text (o : AgentOptions) : String :=
  "listener:" ++ (if o.listener then "true" else "false") ++ ",script:" ++ Text.lossyText o.script

/-! ## Errors -/

/-- Why a command cannot be built. -/
inductive CommandError where
  | invalid (reason : String)
  | unknownPlaceholder (name argument : String)
deriving DecidableEq, Repr

/-- The kind of an error by name. -/
def CommandError.name : CommandError → String
  | .invalid _ => "InvalidDriverConfig"
  | .unknownPlaceholder _ _ => "UnknownPlaceholder"

def CommandError.message : CommandError → String
  | .invalid reason => "invalid driver configuration: " ++ reason
  | .unknownPlaceholder name argument =>
    "unknown placeholder '\x7b" ++ name ++ "\x7d' in argument '" ++ argument ++ "'"

/-! ## Commands -/

/-- How to start the tool for one attach. -/
structure Command where
  /-- Name of the attach in the log. -/
  run : String
  /-- The tool. -/
  program : Path
  /-- Its arguments. -/
  args : List String
  /-- Variables set for it, besides those of the own process. -/
  env : List (String × String)
  /-- How long it must stay to count as attached. -/
  settle : Duration
deriving DecidableEq, Repr

namespace Command

variable {σ : Type}

/-- The first name of a variable that cannot be set. -/
def badKey? (env : List (String × String)) : Option String :=
  (env.map (·.1)).find? fun k => k.isEmpty || k.toList.contains '='

/-- Refuses a command without a program, or with a variable that cannot be set. -/
def validate (c : Command) : Except CommandError Unit :=
  if c.program.isEmpty then .error (.invalid "agent command is empty")
  else match badKey? c.env with
    | some k => .error (.invalid ("invalid environment key '" ++ k ++ "'"))
    | none => .ok ()

/-- Some texts in quotes, as a list in brackets. -/
def quotedList (xs : List String) : String :=
  "[" ++ ", ".intercalate (xs.map Text.quoted) ++ "]"

/-- Notes the command in the log. -/
def note (c : Command) : Act σ Unit :=
  Act.emit ⟨.trace, "perfdbg_exec::subprocess::config", "attach subprocess config resolved", [
    ("run", .shown c.run),
    ("command", .shown (Text.lossyText c.program)),
    ("args", .shown (quotedList c.args)),
    ("env_len", .int c.env.length),
    ("settle_ms", .int (UInt64.ofNat c.settle.toMillis).toNat)]⟩

/-- The command in short. -/
def summary (c : Command) : String :=
  "SubprocessConfig(cmd='" ++ Text.lossyText c.program ++ "', args=" ++
    Text.decimalText c.args.length ++ ", env=" ++ Text.decimalText c.env.length ++
    ", settle=" ++ c.settle.text ++ ")"

/-! ## Templates -/

/-- The arguments that the tool is given by default. -/
def defaultTemplate : List String := ["-p", "\x7bpid\x7d", "\x7bscript\x7d", "\x7bpid\x7d"]

/-- One argument with the values in place. -/
def fillArgument (values : List (String × String)) (argument : String) :
    Except CommandError String :=
  match Template.fill (values.map fun v => (v.1.toList, v.2.toList)) argument.toList with
  | .ok cs => .ok (String.ofList cs)
  | .error name => .error (.unknownPlaceholder (String.ofList name) argument)

/-- All arguments with the values in place, or the first error. -/
def fillAll (values : List (String × String)) : List String → Except CommandError (List String)
  | [] => .ok []
  | a :: as =>
    match fillArgument values a with
    | .error e => .error e
    | .ok x =>
      match fillAll values as with
      | .error e => .error e
      | .ok xs => .ok (x :: xs)

/-- Values that a template is tried with. -/
def sampleValues : List (String × String) := [("pid", "1"), ("script", "s"), ("options", "o")]

/-- Refuses a template that cannot be filled. -/
def validateTemplate (template : List String) : Except CommandError Unit :=
  (fillAll sampleValues template).map fun _ => ()

/-- The values of the names in a template. -/
def values (pid : ProcessId) (options : AgentOptions) : List (String × String) :=
  [("pid", pid.text), ("script", Text.lossyText options.script), ("options", options.text)]

/-- The command of one attach. -/
def build (template : List String) (settle : Duration) (pid : ProcessId) (agent : Path)
    (options : AgentOptions) : Except CommandError Command :=
  match fillAll (values pid options) template with
  | .error e => .error e
  | .ok args =>
    let c : Command := {
      run := "attach-" ++ pid.text
      program := agent
      args := args
      env := [(Environment.agentOptions, options.text)]
      settle := settle }
    match c.validate with
    | .error e => .error e
    | .ok _ => .ok c

end Command

end SelfTrace
