import SelfTrace.Proofs.Commands
import SelfTrace.Proofs.Keeping
import SelfTrace.Proofs.MarkerNames
import SelfTrace.Proofs.Replacement
import SelfTrace.Proofs.Watched

/-!
# The script among the arguments

An agent lets its rule script be written and hands the path of it to the tool. On the way the path
becomes a text: an argument is the text that the path reads as, with U+FFFD in place of what is no
character. Only a path that is a text itself arrives as it was written.

* `Handover` — what is noted of a start: where the script was written, and what was to be started;
* `start_hands` — every start hands over the path of its script, or starts nothing;
* `script_argument_read` — what the tool finds in the place of the script;
* `undecodable_script_garbled` — two scripts in directories without a name in text are handed over
  as one, and as neither.
-/

namespace SelfTrace

variable {σ : Type}

/-! ## Paths as texts -/

namespace Text

theorem lossyText_octets (s : String) : lossyText (octets s) = s := by
  have hread : decodeLossy (encode s.toList) = s.toList := by
    rw [decodeLossy, scan_encode, List.map_map]
    exact List.map_id _
  rw [lossyText, octets, hread, String.ofList_toList]

/-- The octets are those of a text. -/
def Encoded (bs : Bytes) : Prop := ∃ s, bs = octets s

/-- Some octets are those of a text exactly if they are those of the text that they read as. -/
theorem octets_lossyText_eq_iff (bs : Bytes) : octets (lossyText bs) = bs ↔ Encoded bs := by
  constructor
  · intro h
    exact ⟨lossyText bs, h.symm⟩
  · rintro ⟨s, rfl⟩
    rw [lossyText_octets]

theorem decoded_toList_iff (bs : Bytes) (s : String) : Decoded bs s.toList ↔ lossyText bs = s := by
  rw [decoded_iff, lossyText, ← String.toList_inj, String.toList_ofList, eq_comm]

end Text

/-! ## The argument -/

namespace Command

/-- The placeholder of the script, alone in an argument. -/
def scriptSlot : String := "\x7bscript\x7d"

theorem filledArgument_scriptSlot (pid : ProcessId) (options : AgentOptions) :
    filledArgument (values pid options) scriptSlot = Text.lossyText options.script := by
  have hparts : Template.parts scriptSlot.toList = [.slot "script".toList] := by decide
  rw [filledArgument, hparts]
  simp [Template.Part.text, Template.value?, values]

theorem ne_nil_of_build {template : List String} {settle : Duration} {pid : ProcessId}
    {agent : Path} {options : AgentOptions} {c : Command}
    (h : build template settle pid agent options = .ok c) : agent ≠ [] := by
  rintro rfl
  rw [build] at h
  cases hfill : fillAll (values pid options) template with
  | error e =>
    rw [hfill] at h
    cases h
  | ok args =>
    rw [hfill] at h
    cases h

/-- An argument is handed over behind the tool itself and the arguments before it. -/
theorem handed_argument {c : Command} {i : Nat} {argument : String}
    (h : c.args[i]? = some argument) : c.handed[i + 1]? = some (Text.octets argument) := by
  have hlt : i < (c.args.map Text.octets).length := by
    rw [List.length_map]
    exact (List.getElem?_eq_some_iff.1 h).1
  rw [handed, List.cons_append, List.getElem?_cons_succ, List.getElem?_append_left hlt,
    List.getElem?_map, h]
  rfl

/-- Where a template has the placeholder of the script, the command has the text that the path
reads as. -/
theorem args_scriptSlot {template : List String} {settle : Duration} {pid : ProcessId}
    {agent : Path} {options : AgentOptions} {c : Command}
    (h : build template settle pid agent options = .ok c) {i : Nat}
    (hi : template[i]? = some scriptSlot) : c.args[i]? = some (Text.lossyText options.script) := by
  rw [build_eq template settle pid (ne_nil_of_build h)] at h
  cases hvalid : validateTemplate template with
  | error e =>
    rw [hvalid] at h
    cases h
  | ok _ =>
    rw [hvalid] at h
    cases h
    show (template.map _)[i]? = _
    rw [List.getElem?_map, hi, Option.map_some, filledArgument_scriptSlot]

end Command

/-! ## What is noted of a start -/

/-- What goes from one to another in a start. -/
inductive Handover where
  /-- The provisioner's answer: where the script was written. -/
  | written (answer : Except ProvisionError Path)
  /-- The operating system is to start a command. -/
  | started (command : Command)
deriving DecidableEq

/-- An operating system that notes what it is to start. -/
def Starter.noting (os : Starter σ) : Starter (Watched Handover σ) where
  start c := do
    match ← (os.start c).watching fun _ => .started c with
    | .error e => return .error e
    | .ok (agentPid, child) => return .ok (agentPid, child.on Watched.part)
  clock := os.clock.on Watched.part

/-- Collaborators that attach the tool by a launcher, with what goes from one to another noted. -/
def Collaborators.noting (d : Collaborators σ) (l : Launcher) (os : Starter σ) :
    Collaborators (Watched Handover σ) where
  resolve := d.resolve.on Watched.part
  locate := d.locate.on Watched.part
  provision resource file := (d.provision resource file).watching .written
  attach pid tool options := do
    match ← l.attach os.noting pid tool options with
    | .ok s => return .ok (gripOf s)
    | .error e => return .error e
  register ns name number := (d.register ns name number).on Watched.part

/-- The record of a scene. -/
def Scene.record {κ : Type} (s : Scene (Watched κ σ)) : List κ := s.state.record

namespace Act

variable {κ α : Type}

theorem record_unfiled : Unfiled (Scene.record : Scene (Watched κ σ) → List κ) :=
  fun _ _ _ => rfl

theorem on_part_keeps (a : Act σ α) :
    (a.on Watched.part : Act (Watched κ σ) α).Keeps Scene.record :=
  fun _ => rfl

theorem watching_leads (f : α → κ) (a : Act σ α) (s : Scene (Watched κ σ)) :
    (a.watching f).Leads s fun x t => t.record = s.record ++ [f x] :=
  rfl

end Act

/-! ## Attaching -/

/-- What is done with a child is not noted. -/
structure Child.Unnoted {κ : Type} (c : Child (Watched κ σ)) : Prop where
  poll : c.poll.Keeps Scene.record
  kill : c.kill.Keeps Scene.record
  wait : c.wait.Keeps Scene.record
  sleep : ∀ time, (c.sleep time).Keeps Scene.record

theorem Child.on_unnoted {κ : Type} (c : Child σ) :
    (c.on Watched.part : Child (Watched κ σ)).Unnoted :=
  ⟨Act.on_part_keeps _, Act.on_part_keeps _, Act.on_part_keeps _, fun _ => Act.on_part_keeps _⟩

namespace Session

variable {κ : Type} {s : Session (Watched κ σ)}

theorem look_keeps (h : s.child.Unnoted) : s.look.Keeps Scene.record := by
  refine h.poll.bind ?_
  rintro (e | _ | status)
  · exact .pure _
  · exact .pure _
  · exact .pure _

theorem settle_keeps (h : s.child.Unnoted) (deadline : Nat) (readings : List Nat) :
    (s.settle deadline readings).Keeps Scene.record := by
  induction readings with
  | nil =>
    refine (look_keeps h).bind ?_
    rintro (_ | e)
    · exact .pure _
    · exact .pure _
  | cons now readings ih =>
    refine (look_keeps h).bind ?_
    rintro (_ | e)
    · by_cases hnow : deadline ≤ now
      · dsimp only
        rw [if_pos hnow]
        exact .pure _
      · dsimp only
        rw [if_neg hnow]
        exact (h.sleep _).bind fun _ => ih
    · exact .pure _

theorem collect_keeps (h : s.child.Unnoted) : s.collect.Keeps Scene.record := by
  refine h.wait.bind ?_
  rintro (e | status)
  · exact .emit Act.record_unfiled _
  · exact .emit Act.record_unfiled _

theorem finish_keeps (h : s.child.Unnoted) : s.finish.Keeps Scene.record := by
  refine h.kill.bind ?_
  rintro (e | _)
  · exact (Act.Keeps.emit Act.record_unfiled _).bind fun _ => collect_keeps h
  · exact collect_keeps h

theorem close_keeps (h : s.child.Unnoted) : s.close.Keeps Scene.record := by
  refine h.poll.bind ?_
  rintro (e | _ | status)
  · exact finish_keeps h
  · exact finish_keeps h
  · exact .emit Act.record_unfiled _

end Session

theorem Starter.watch_keeps (os : Starter σ) {s : Session (Watched Handover σ)}
    (h : s.child.Unnoted) (time : Duration) :
    (Launcher.watch os.noting s time).Keeps Scene.record := by
  refine (Act.on_part_keeps os.clock).bind ?_
  intro clock
  cases clock with
  | nil => exact Session.settle_keeps h 0 []
  | cons start readings => exact Session.settle_keeps h _ readings

/-- An attach notes the command that it starts, if it has one; its session notes nothing. -/
theorem Launcher.attach_notes (l : Launcher) (os : Starter σ) (pid : ProcessId) (tool : Path)
    (options : AgentOptions) (s : Scene (Watched Handover σ)) :
    (l.attach os.noting pid tool options).Leads s fun x t =>
      (∀ session, x = .ok session → session.close.Keeps Scene.record) ∧
      match l.command pid tool options with
      | .error e => x = .error (.invalidConfig e.message) ∧ t.record = s.record
      | .ok c => t.record = s.record ++ [.started c] := by
  unfold attach
  cases l.command pid tool options with
  | error e => exact .pure ⟨nofun, rfl, rfl⟩
  | ok c =>
    refine ((Act.Keeps.emit Act.record_unfiled _).leads s).bind ?_
    intro _ t hnote
    rw [← hnote]
    -- the command is noted when it is started, whatever comes of that
    refine Act.Leads.bind (P := fun x t' => t'.record = t.record ++ [.started c] ∧
      ∀ number child, x = .ok (number, child) → child.Unnoted) ?_ ?_
    · refine (Act.watching_leads (fun _ => .started c) (os.start c) t).bind ?_
      rintro (e | ⟨number, child⟩) t' hstarted
      · exact .pure ⟨hstarted, nofun⟩
      · refine .pure ⟨hstarted, ?_⟩
        rintro _ _ ⟨⟩
        exact child.on_unnoted
    · rintro (e | ⟨number, child⟩) t' ⟨hstarted, hchild⟩
      · exact .pure ⟨nofun, hstarted⟩
      · have hunnoted := hchild number child rfl
        have hclose : Act.Keeps Scene.record
            (Session.close ⟨c.run, tool, number, pid.text, child⟩) :=
          Session.close_keeps hunnoted
        refine ((Starter.watch_keeps os (s := ⟨c.run, tool, number, pid.text, child⟩) hunnoted
          c.settle).leads t').bind ?_
        rintro (e | _) t'' hwatched
        · refine (hclose.leads t'').bind ?_
          intro _ t₃ hclosed
          exact .pure ⟨nofun, hclosed.trans (hwatched.trans hstarted)⟩
        · refine ((Act.Keeps.emit Act.record_unfiled _).leads t'').bind ?_
          intro _ t₃ hemitted
          refine .pure ⟨?_, hemitted.trans (hwatched.trans hstarted)⟩
          rintro _ ⟨⟩
          exact hclose

/-! ## Starts -/

/-- What can go from one to another in a start. -/
inductive HandedOver (l : Launcher) (listener : Bool) : List Handover → Prop where
  | nothing : HandedOver l listener []
  | unwritten (e : ProvisionError) : HandedOver l listener [.written (.error e)]
  | unstarted (path : Path) : HandedOver l listener [.written (.ok path)]
  | started {path : Path} {pid : ProcessId} {tool : Path} {command : Command}
      (h : l.command pid tool ⟨listener, path⟩ = .ok command) :
      HandedOver l listener [.written (.ok path), .started command]

section Start

variable (d : Collaborators σ) (l : Launcher) (os : Starter σ) (c : Config)

theorem provisionScript_hands (maker : ScriptFile.Maker) (s : Scene (Watched Handover σ)) :
    (Agent.provisionScript (d.noting l os) c maker).Leads s fun x t =>
      match x with
      | .ok (_, path) => t.record = s.record ++ [.written (.ok path)]
      | .error _ => t.record = s.record ∨ ∃ e, t.record = s.record ++ [.written (.error e)] := by
  refine ((ScriptFile.make_keeps Act.record_unfiled maker).leads s).bind ?_
  rintro (e | file) t hmade
  · exact .pure (.inl hmade)
  · rw [← hmade]
    refine (Act.watching_leads Handover.written (d.provision c.scriptResource file) t).bind ?_
    rintro (e | path) t' hwritten
    · -- the file is removed again, which is not noted
      refine ((ScriptFile.remove_keeps Act.record_unfiled file).leads t').bind ?_
      intro _ t'' hremoved
      exact .pure (.inr ⟨e, hremoved.trans hwritten⟩)
    · exact .pure hwritten

theorem noting_attach_hands (pid : ProcessId) (tool : Path) (options : AgentOptions)
    (s : Scene (Watched Handover σ)) :
    ((d.noting l os).attach pid tool options).Leads s fun x t =>
      (∀ grip, x = .ok grip → grip.release.Keeps Scene.record ∧
        ∃ command, l.command pid tool options = .ok command) ∧
      match l.command pid tool options with
      | .error _ => t.record = s.record
      | .ok command => t.record = s.record ++ [.started command] := by
  refine (l.attach_notes os pid tool options s).bind ?_
  rintro (e | session) t ⟨hclose, hnotes⟩
  · refine .pure ⟨nofun, ?_⟩
    cases hcommand : l.command pid tool options with
    | error e' =>
      rw [hcommand] at hnotes
      exact hnotes.2
    | ok command =>
      rw [hcommand] at hnotes
      exact hnotes
  · cases hcommand : l.command pid tool options with
    | error e' =>
      -- without a command there is no session
      rw [hcommand] at hnotes
      cases hnotes.1
    | ok command =>
      rw [hcommand] at hnotes
      refine .pure ⟨?_, hnotes⟩
      rintro _ ⟨⟩
      exact ⟨hclose session rfl, command, rfl⟩

theorem install_hands (name : String) (maker : ScriptFile.Maker) (a : Agent (Watched Handover σ))
    (s : Scene (Watched Handover σ)) :
    (Agent.install (d.noting l os) c name maker a).Leads s fun x t =>
      ∃ notes, t.record = s.record ++ notes ∧ HandedOver l c.listener notes ∧
        (x.2 = .ok () → ∃ path command, notes = [.written (.ok path), .started command]) := by
  refine ((Act.on_part_keeps d.resolve).leads s).bind ?_
  rintro (_ | pid) t₁ hresolve
  · exact .pure ⟨[], by rw [List.append_nil, hresolve], .nothing, nofun⟩
  refine ((Act.on_part_keeps d.locate).leads t₁).bind ?_
  rintro (e | tool) t₂ hlocate
  · exact .pure ⟨[], by rw [List.append_nil, hlocate, hresolve], .nothing, nofun⟩
  refine (provisionScript_hands d l os c maker t₂).bind ?_
  rintro (e | ⟨file, path⟩) t₃ hprovision
  · rcases hprovision with hnone | ⟨e', hwritten⟩
    · exact .pure ⟨[], by rw [List.append_nil, hnone, hlocate, hresolve], .nothing, nofun⟩
    · exact .pure ⟨_, by rw [hwritten, hlocate, hresolve], .unwritten e', nofun⟩
  -- all that is noted by now is the script
  have hbefore : t₃.record = s.record ++ [.written (.ok path)] := by
    rw [hprovision, hlocate, hresolve]
  refine (noting_attach_hands d l os pid tool ⟨c.listener, path⟩ t₃).bind ?_
  rintro answer t₄ ⟨hgrip, hnotes⟩
  cases hcommand : l.command pid tool ⟨c.listener, path⟩ with
  | error e =>
    rw [hcommand] at hnotes
    cases answer with
    | error e' => exact .pure ⟨_, hnotes.trans hbefore, .unstarted path, nofun⟩
    | ok grip =>
      obtain ⟨-, command, hsome⟩ := hgrip grip rfl
      rw [hcommand] at hsome
      cases hsome
  | ok command =>
    rw [hcommand] at hnotes
    have hafter : t₄.record = s.record ++ [.written (.ok path), .started command] := by
      rw [hnotes, hbefore, List.append_assoc]
      rfl
    have hstarted : HandedOver l c.listener [.written (.ok path), .started command] :=
      .started hcommand
    cases answer with
    | error e => exact .pure ⟨_, hafter, hstarted, nofun⟩
    | ok grip =>
      refine ((Act.Keeps.emit Act.record_unfiled _).leads t₄).bind ?_
      intro _ t₅ hemit
      refine ((Act.on_part_keeps (d.register c.metricsNamespace name a.monitors)).leads t₅).bind ?_
      rintro (e | _) t₆ hregister
      · refine ((hgrip grip rfl).1.leads t₆).bind ?_
        intro _ t₇ hreleased
        exact .pure ⟨_, by rw [hreleased, hregister, hemit, hafter], hstarted, nofun⟩
      · exact .pure ⟨_, by rw [hregister, hemit, hafter], hstarted, fun _ => ⟨path, command, rfl⟩⟩

/-- A start hands over the path that the script was written to; an agent that is attached has been
started a tool for. -/
theorem start_hands (name : String) (maker : ScriptFile.Maker) (s : Scene (Watched Handover σ)) :
    (Agent.start (d.noting l os) c name maker).Leads s fun a t =>
      ∃ notes, t.record = s.record ++ notes ∧ HandedOver l c.listener notes ∧
        (a.isAttached = true →
          ∃ path command, notes = [.written (.ok path), .started command]) := by
  refine Act.Leads.bind (P := fun _ t => t.record = s.record) rfl ?_
  intro number t₁ hnew
  rw [← hnew]
  refine (install_hands d l os c name maker { monitors := number } t₁).bind ?_
  rintro ⟨a, e | _⟩ t₂ ⟨notes, hrecord, hhanded, hboth⟩
  · refine ((Act.Keeps.emit Act.record_unfiled _).leads t₂).bind ?_
    intro _ t₃ hemit
    exact .pure ⟨notes, hemit.trans hrecord, hhanded, nofun⟩
  · refine ((Act.Keeps.emit Act.record_unfiled _).leads t₂).bind ?_
    intro _ t₃ hemit
    exact .pure ⟨notes, hemit.trans hrecord, hhanded, fun _ => hboth rfl⟩

end Start

/-! ## What the tool finds -/

/-- A start with collaborators that attach the tool by a launcher. -/
structure Launching (σ : Type) where
  collaborators : Collaborators σ
  launcher : Launcher
  os : Starter σ
  config : Config
  name : String
  maker : ScriptFile.Maker
  scene : Scene σ

namespace Launching

/-- What the start comes to, with what goes from one to another noted. -/
def run (x : Launching σ) : Agent (Watched Handover σ) × Scene (Watched Handover σ) :=
  (Agent.start (x.collaborators.noting x.launcher x.os) x.config x.name x.maker).runOn
    (x.scene.watched [])

/-- The script was written to a path, and then a command was started. -/
def Hands (x : Launching σ) (path : Path) (command : Command) : Prop :=
  x.run.2.record = [.written (.ok path), .started command]

theorem handedOver (x : Launching σ) :
    HandedOver x.launcher x.config.listener x.run.2.record ∧
      (x.run.1.isAttached = true → ∃ path command, x.Hands path command) := by
  obtain ⟨notes, hrecord, hhanded, hattached⟩ := start_hands x.collaborators x.launcher x.os
    x.config x.name x.maker (x.scene.watched [])
  have hnotes : x.run.2.record = notes := hrecord
  rw [hnotes]
  refine ⟨hhanded, ?_⟩
  intro h
  obtain ⟨path, command, rfl⟩ := hattached h
  exact ⟨path, command, hnotes⟩

/-- In the place of the script, the tool finds the text that the path reads as. -/
theorem Hands.args {x : Launching σ} {path : Path} {command : Command}
    (h : x.Hands path command) {i : Nat}
    (hi : x.launcher.template[i]? = some Command.scriptSlot) :
    command.args[i]? = some (Text.lossyText path) := by
  have hhanded := x.handedOver.1
  rw [Hands] at h
  rw [h] at hhanded
  cases hhanded with
  | started hcommand => exact Command.args_scriptSlot hcommand hi

end Launching

/-- Whatever becomes of a start, a tool is started only for a script that was written. In the place
of the script it finds the text that the path of the script reads as: the path itself exactly if the
path is a text. Starts with different paths hand over different ones if the paths are texts; a path
that is none is handed over as another one is. -/
theorem script_argument_read (x : Launching σ) :
    (x.run.1.isAttached = true → ∃ path command, x.Hands path command) ∧
    (∀ command, .started command ∈ x.run.2.record → ∃ path, x.Hands path command) ∧
    ∀ path command, x.Hands path command →
      ∀ i : Nat, x.launcher.template[i]? = some Command.scriptSlot →
      ∃ argument : String, command.args[i]? = some argument ∧
        command.handed[i + 1]? = some (Text.octets argument) ∧
        Text.Decoded path argument.toList ∧
        (command.handed[i + 1]? = some path ↔ Text.Encoded path) ∧
        (¬Text.Encoded path → ∃ other, other ≠ path ∧ Text.Decoded other argument.toList) ∧
        ∀ (x' : Launching σ) (path' : Path) (command' : Command), x'.Hands path' command' →
          ∀ i' : Nat, x'.launcher.template[i']? = some Command.scriptSlot →
          (command'.handed[i' + 1]? = command.handed[i + 1]? ↔
            Text.Decoded path' argument.toList) ∧
          (Text.Encoded path → Text.Encoded path' →
            (command'.handed[i' + 1]? = command.handed[i + 1]? ↔ path' = path)) := by
  obtain ⟨hhanded, hattached⟩ := x.handedOver
  refine ⟨hattached, ?_, ?_⟩
  · -- of all that a start can note, a command stands only behind a path
    intro command hmem
    unfold Launching.Hands
    cases hrecord : x.run.2.record with
    | nil =>
      rw [hrecord] at hmem
      cases hmem
    | cons first rest =>
      rw [hrecord] at hmem hhanded
      cases hhanded with
      | unwritten e => simp at hmem
      | unstarted path => simp at hmem
      | started hcommand =>
        simp at hmem
        exact ⟨_, by rw [hmem]⟩
  · intro path command hhands i hi
    have hargs := hhands.args hi
    have hfound := Command.handed_argument hargs
    refine ⟨Text.lossyText path, hargs, hfound, (Text.decoded_toList_iff _ _).2 rfl, ?_, ?_, ?_⟩
    · rw [hfound, Option.some_inj]
      exact Text.octets_lossyText_eq_iff path
    · -- the text that it reads as is a path, too, and another one
      intro hplain
      refine ⟨Text.octets (Text.lossyText path), ?_, ?_⟩
      · exact fun heq => hplain ((Text.octets_lossyText_eq_iff path).1 heq)
      · exact (Text.decoded_toList_iff _ _).2 (Text.lossyText_octets _)
    · intro x' path' command' hhands' i' hi'
      have hfound' := Command.handed_argument (hhands'.args hi')
      have hsame : command'.handed[i' + 1]? = command.handed[i + 1]? ↔
          Text.lossyText path' = Text.lossyText path := by
        rw [hfound, hfound', Option.some_inj, Text.octets_inj]
      refine ⟨hsame.trans (Text.decoded_toList_iff _ _).symm, ?_⟩
      rintro ⟨s, rfl⟩ ⟨s', rfl⟩
      rw [hsame, Text.lossyText_octets, Text.lossyText_octets, Text.octets_inj]

/-- The start of an agent in a directory for temporary files at the root. -/
def startIn (directory : Bytes) : Launching Unit where
  collaborators := {
    resolve := return some ⟨42⟩
    locate := return .ok (Text.octets "/bin/sh")
    provision := fun _ file => return .ok file
    attach := fun _ tool _ => return .error (.spawn tool (.errno 2))
    register := fun _ _ _ => return .ok () }
  launcher := {}
  os := {
    start := fun _ => return .ok (7, {
      poll := return .ok none
      kill := return .ok ()
      wait := return .ok (.signaled 9)
      sleep := fun _ => return () })
    clock := return [] }
  config := {}
  name := "perfdbg-debug"
  maker := ScriptFile.numbered (Path.slash :: directory)
  scene := { state := (), files := { entries := [⟨[directory], .dir, 0o755, 0⟩] } }

/-- The first script file in the directory. -/
def scriptIn (directory : Bytes) : Path :=
  Path.slash :: directory ++ Path.slash :: Text.octets "perfdbgAgent000000.bt"

/-- The command with a text in the place of the script. -/
def commandWith (script : String) : Command where
  run := "attach-42"
  program := Text.octets "/bin/sh"
  args := ["-p", "42", script, "42"]
  env := [("PERFDBG_AGENT_OPTIONS", "listener:false,script:" ++ script)]
  settle := Duration.ofMillis 250

/-- In a directory with a name in text, the path arrives as it was written. -/
theorem script_argument_read_tmp :
    let x := startIn (Text.octets "tmp")
    let path := scriptIn (Text.octets "tmp")
    let command := commandWith "/tmp/perfdbgAgent000000.bt"
    x.Hands path command ∧ x.launcher.template[2]? = some Command.scriptSlot ∧
      Text.Encoded path ∧ command.handed[3]? = some path := by
  intro x path command
  have hhands : x.Hands path command := by
    unfold Launching.Hands
    decide +kernel
  have hslot : x.launcher.template[2]? = some Command.scriptSlot := by decide
  have htext : Text.Encoded path := ⟨"/tmp/perfdbgAgent000000.bt", by decide⟩
  obtain ⟨-, -, hread⟩ := script_argument_read x
  obtain ⟨argument, -, -, -, hsame, -⟩ := hread path command hhands 2 hslot
  exact ⟨hhands, hslot, htext, hsame.2 htext⟩

/-- Scripts in two directories with names of one octet that is no text: the tool is given one and
the same argument for both, and it is the path of neither. -/
theorem undecodable_script_garbled :
    ∃ command : Command, (startIn [0xFE]).launcher.template[2]? = some Command.scriptSlot ∧
      (startIn [0xFE]).Hands (scriptIn [0xFE]) command ∧
      (startIn [0xFF]).Hands (scriptIn [0xFF]) command ∧
      scriptIn [0xFE] ≠ scriptIn [0xFF] ∧
      command.handed[3]? ≠ some (scriptIn [0xFE]) ∧
      command.handed[3]? ≠ some (scriptIn [0xFF]) := by
  refine ⟨commandWith "/\uFFFD/perfdbgAgent000000.bt", by decide, ?_, ?_, by decide, ?_, ?_⟩
  · unfold Launching.Hands
    decide +kernel
  · unfold Launching.Hands
    decide +kernel
  · decide
  · decide

end SelfTrace
