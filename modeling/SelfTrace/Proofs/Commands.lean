import SelfTrace.Proofs.Slots
import SelfTrace.Tool.Launch

/-!
# Commands from templates

A template is checked by filling it with samples, and filled in when a tool is attached. Whether it
can be filled depends on the names in braces alone, so that a template that passed the check can be
filled for every process, script and option.

* `validateTemplate_eq_error_iff` — what the check finds: the leftmost unknown name of the first
  argument that has one;
* `build_eq` — the command of an attach, or what the check finds;
* `command_agrees_with_check` — the check, the command and the attach agree.
-/

namespace SelfTrace

namespace Command

/-- The names that a template of arguments may use. -/
def placeholders : List String := ["pid", "script", "options"]

/-- The names of placeholders as characters. -/
def knownNames : List (List Char) := placeholders.map String.toList

/-- An argument with each placeholder replaced by its value. -/
def filledArgument (values : List (String × String)) (argument : String) : String :=
  String.ofList ((Template.parts argument.toList).flatMap
    (Template.Part.text (values.map fun v => (v.1.toList, v.2.toList))))

/-! ## The check -/

theorem fillArgument_eq (values : List (String × String)) (a : String)
    (hnames : values.map (·.1) = placeholders) :
    fillArgument values a = match Template.missing? knownNames a.toList with
      | some name => .error (.unknownPlaceholder (String.ofList name) a)
      | none => .ok (filledArgument values a) := by
  have hknown : (values.map fun v => (v.1.toList, v.2.toList)).map (·.1) = knownNames := by
    rw [knownNames, ← hnames, List.map_map, List.map_map]
    rfl
  rw [fillArgument, Template.fill_eq, hknown]
  cases Template.missing? knownNames a.toList <;> rfl

/-- What the check finds, one argument after the other. -/
theorem validateTemplate_cons (a : String) (as : List String) :
    validateTemplate (a :: as) = match Template.missing? knownNames a.toList with
      | some name => .error (.unknownPlaceholder (String.ofList name) a)
      | none => validateTemplate as := by
  rw [validateTemplate, fillAll, fillArgument_eq sampleValues a rfl, validateTemplate]
  cases Template.missing? knownNames a.toList with
  | some name => rfl
  | none => cases fillAll sampleValues as <;> rfl

/-- A template is refused for the leftmost unknown name of the first argument that has one. -/
theorem validateTemplate_eq_error_iff (template : List String) (e : CommandError) :
    validateTemplate template = .error e ↔
      ∃ good argument rest name, template = good ++ argument :: rest ∧
        (∀ a ∈ good, Template.AllKnown knownNames a.toList) ∧
        Template.LeftmostUnknown knownNames argument.toList name ∧
        e = .unknownPlaceholder (String.ofList name) argument := by
  induction template with
  | nil => simp [validateTemplate, fillAll, Except.map]
  | cons a as ih =>
    rw [validateTemplate_cons]
    cases hmissing : Template.missing? knownNames a.toList with
    | some name =>
      have hleftmost := (Template.missing?_eq_some_iff _ _ _).1 hmissing
      constructor
      · rintro ⟨rfl⟩
        exact ⟨[], a, as, name, rfl, by simp, hleftmost, rfl⟩
      · rintro ⟨good, argument, rest, name', hsplit, hgood, hleftmost', rfl⟩
        -- the first argument is refused, so none in front of the refused one is good
        cases good with
        | nil =>
          obtain ⟨rfl, rfl⟩ := List.cons.inj hsplit
          rw [(Template.missing?_eq_some_iff _ _ _).2 hleftmost'] at hmissing
          cases hmissing
          rfl
        | cons g good =>
          obtain ⟨rfl, -⟩ := List.cons.inj hsplit
          rw [(Template.missing?_eq_none_iff _ _).2 (hgood _ List.mem_cons_self)] at hmissing
          cases hmissing
    | none =>
      rw [ih]
      constructor
      · rintro ⟨good, argument, rest, name, rfl, hgood, hleftmost⟩
        refine ⟨a :: good, argument, rest, name, rfl, ?_, hleftmost⟩
        exact List.forall_mem_cons.2 ⟨(Template.missing?_eq_none_iff _ _).1 hmissing, hgood⟩
      · rintro ⟨good, argument, rest, name, hsplit, hgood, hleftmost, he⟩
        cases good with
        | nil =>
          obtain ⟨rfl, -⟩ := List.cons.inj hsplit
          rw [(Template.missing?_eq_some_iff _ _ _).2 hleftmost] at hmissing
          cases hmissing
        | cons g good =>
          obtain ⟨rfl, rfl⟩ := List.cons.inj hsplit
          exact ⟨good, argument, rest, name, rfl, (List.forall_mem_cons.1 hgood).2, hleftmost, he⟩

/-! ## Filling -/

/-- Values of the known names fill a template exactly if it passes the check, one argument after
the other. -/
theorem fillAll_eq (values : List (String × String)) (hnames : values.map (·.1) = placeholders)
    (template : List String) :
    fillAll values template =
      (validateTemplate template).map fun _ => template.map (filledArgument values) := by
  induction template with
  | nil => rfl
  | cons a as ih =>
    rw [fillAll, validateTemplate_cons, fillArgument_eq values a hnames]
    cases Template.missing? knownNames a.toList with
    | some name => rfl
    | none =>
      simp only [ih]
      cases validateTemplate as <;> rfl

/-- The command of an attach with arguments that are filled in. -/
def filled (template : List String) (settle : Duration) (pid : ProcessId) (agent : Path)
    (options : AgentOptions) : Command where
  run := "attach-" ++ pid.text
  program := agent
  args := template.map (filledArgument (values pid options))
  env := [(Environment.agentOptions, options.text)]
  settle := settle

/-- With a tool to start, there is a command exactly if the template passes the check. -/
theorem build_eq (template : List String) (settle : Duration) (pid : ProcessId) {agent : Path}
    (hagent : agent ≠ []) (options : AgentOptions) :
    build template settle pid agent options =
      (validateTemplate template).map fun _ => filled template settle pid agent options := by
  have hvalid : (filled template settle pid agent options).validate = .ok () := by
    have hempty : agent.isEmpty = false := by simpa using hagent
    have hkey : badKey? [(Environment.agentOptions, options.text)] = none := by
      have hname : ¬Environment.agentOptions = "" ∧ '=' ∉ Environment.agentOptions.toList := by
        decide
      simpa [badKey?] using hname
    simp only [validate, filled, hempty, hkey]
    rfl
  rw [build, fillAll_eq (values pid options) rfl]
  cases validateTemplate template with
  | error e => rfl
  | ok _ =>
    rw [filled] at hvalid ⊢
    dsimp only [Except.map]
    rw [hvalid]

end Command

variable {σ : Type}

/-- The check, the command and the attach agree on a template, whatever the values. The check
refuses it for the leftmost unknown name of the first bad argument; then there is no command, and an
attach ends before anything is started. If it passes, the command has one argument for each of the
template, with the values as they are, and sets the options and nothing else. Other values change
nothing of the outcome. -/
theorem command_agrees_with_check (l : Launcher) (pid : ProcessId) {agent : Path}
    (hagent : agent ≠ []) (options : AgentOptions) :
    ((∃ c, l.command pid agent options = .ok c) ↔ l.validate = .ok ()) ∧
    (∀ e, l.command pid agent options = .error e ↔ l.validate = .error e) ∧
    (∀ e, l.validate = .error e ↔
      ∃ good argument rest name, l.template = good ++ argument :: rest ∧
        (∀ a ∈ good, Template.AllKnown Command.knownNames a.toList) ∧
        Template.LeftmostUnknown Command.knownNames argument.toList name ∧
        e = .unknownPlaceholder (String.ofList name) argument) ∧
    (∀ e, l.validate = .error e → ∀ (os : Starter σ) (s : Scene σ),
      (l.attach os pid agent options).runOn s = (.error (.invalidConfig e.message), s)) ∧
    (∀ (pid' : ProcessId) (agent' : Path) (options' : AgentOptions), agent' ≠ [] →
      (l.command pid' agent' options').map (fun _ => ()) =
        (l.command pid agent options).map fun _ => ()) ∧
    ∀ c : Command, l.command pid agent options = .ok c →
      c.args.length = l.template.length ∧
      (∀ (i : Nat) (argument : String), l.template[i]? = some argument →
        c.args[i]? = some (Command.filledArgument (Command.values pid options) argument)) ∧
      c.program = agent ∧ c.env = [("PERFDBG_AGENT_OPTIONS", options.text)] := by
  -- the check alone decides, and the values only fill in
  have hcommand : l.command pid agent options =
      l.validate.map fun _ => Command.filled l.template l.settle pid agent options :=
    Command.build_eq l.template l.settle pid hagent options
  refine ⟨?_, ?_, Command.validateTemplate_eq_error_iff l.template, ?_, ?_, ?_⟩
  · rw [hcommand]
    cases l.validate with
    | error e => simp [Except.map]
    | ok _ => simp [Except.map]
  · intro e
    rw [hcommand]
    cases l.validate with
    | error e' => simp [Except.map]
    | ok _ => simp [Except.map]
  · intro e hrefused os s
    rw [hrefused] at hcommand
    rw [Launcher.attach, hcommand]
    rfl
  · intro pid' agent' options' hagent'
    have hcommand' : l.command pid' agent' options' =
        l.validate.map fun _ => Command.filled l.template l.settle pid' agent' options' :=
      Command.build_eq l.template l.settle pid' hagent' options'
    rw [hcommand, hcommand']
    cases l.validate <;> rfl
  · intro c hc
    rw [hcommand] at hc
    cases hchecked : l.validate with
    | error e =>
      rw [hchecked] at hc
      cases hc
    | ok _ =>
      rw [hchecked] at hc
      cases hc
      refine ⟨List.length_map _, ?_, rfl, rfl⟩
      intro i argument hargument
      show (l.template.map _)[i]? = _
      rw [List.getElem?_map, hargument]
      rfl

/-- A template with two unknown names, and one whose values look like placeholders. -/
theorem command_refused_for_unknown_name :
    let bad : Launcher :=
      { template := ["\x7bpid\x7d", "a\x7b \x7btid\x7d-\x7bscript\x7d", "\x7buid\x7d"] }
    let good : Launcher := { template := ["\x7b\x7bpid\x7d", "\x7bscript\x7d"] }
    let agent := Text.octets "/bin/sh"
    let options : AgentOptions := ⟨true, Text.octets "/tmp/\x7btid\x7d"⟩
    agent ≠ [] ∧
      bad.command ⟨42⟩ agent options =
        .error (.unknownPlaceholder "tid" "a\x7b \x7btid\x7d-\x7bscript\x7d") ∧
      ∃ c, good.command ⟨42⟩ agent options = .ok c ∧ c.args.length = 2 ∧
        c.args[1]? = some "/tmp/\x7btid\x7d" := by
  intro bad good agent options
  have hagent : agent ≠ [] := by decide
  have hrefused : bad.validate =
      .error (.unknownPlaceholder "tid" "a\x7b \x7btid\x7d-\x7bscript\x7d") := by decide +kernel
  have hpassed : good.validate = .ok () := by decide +kernel
  have hargument : Command.filledArgument (Command.values ⟨42⟩ options) "\x7bscript\x7d" =
      "/tmp/\x7btid\x7d" := by decide +kernel
  obtain ⟨-, herror, -⟩ := command_agrees_with_check (σ := Unit) bad ⟨42⟩ hagent options
  obtain ⟨hok, -, -, -, -, hfilled⟩ :=
    command_agrees_with_check (σ := Unit) good ⟨42⟩ hagent options
  obtain ⟨c, hc⟩ := hok.2 hpassed
  obtain ⟨hlength, hargs, -⟩ := hfilled c hc
  exact ⟨hagent, (herror _).2 hrefused, c, hc, hlength, (hargs 1 _ rfl).trans (by rw [hargument])⟩

end SelfTrace
