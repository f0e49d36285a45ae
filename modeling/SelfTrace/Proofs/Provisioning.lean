import Mathlib.Data.List.Nodup
import SelfTrace.Files.Guard
import SelfTrace.Proofs.Confinement
import SelfTrace.Proofs.Writing

/-!
# What is provisioned

A resource comes from the directory of scripts if that has a file for it, and from the built-in ones
only if it has nothing. What cannot be read is reported and never replaced, and only a resource that
was found touches the destination.

* `Rules.builtIn?_eq_some_iff` — what is built in under a name;
* `Provisioner.Serves`, `Provisioner.Refuses` — what there is for a resource, or why there is
  nothing;
* `Provisioner.provision_served` — what a provisioning answers and what it leaves.
-/

namespace SelfTrace

/-! ## Systems that refuse -/

theorem Files.Guard.write_of_writeFile {g : Guard} {t written : Tree} {path : Path}
    {content : Bytes} (h : g.writeFile t path content = .ok written) :
    t.write path content = .ok written := by
  unfold writeFile at h
  split at h
  · cases h
  · exact h

variable {σ : Type}

/-- The files of a scene in a system that may refuse. -/
def Disk.guarded (g : Files.Guard) : Disk σ where
  read path := Act.look (g.readFile · path)
  write path content := Act.change (g.writeFile · path content)

/-! ## Built-in resources -/

namespace Rules

/-- No name is that of two built-in resources. -/
theorem builtIn_names_nodup : (builtIn.map (·.1)).Nodup := List.nodup_singleton _

/-- What is built in under a name is the text that stands beside it, octet by octet. -/
theorem builtIn?_eq_some_iff {name : String} {body : Bytes} :
    builtIn? name = some body ↔ ∃ text, (name, text) ∈ builtIn ∧ body = Text.octets text := by
  rw [builtIn?, Option.map_eq_some_iff]
  constructor
  · rintro ⟨⟨name', text⟩, hfind, rfl⟩
    obtain rfl : name' = name := by simpa using List.find?_some hfind
    exact ⟨text, List.mem_of_find?_eq_some hfind, rfl⟩
  · rintro ⟨text, hmem, rfl⟩
    refine ⟨(name, text), ?_, rfl⟩
    cases hfind : builtIn.find? (·.1 == name) with
    | none => exact absurd (List.find?_eq_none.1 hfind _ hmem) (by simp)
    | some r =>
      have hname : r.1 = name := by simpa using List.find?_some hfind
      have hsame := List.inj_on_of_nodup_map builtIn_names_nodup
        (List.mem_of_find?_eq_some hfind) hmem hname
      rw [hsame]

/-- Nothing is built in under a name exactly if the name stands nowhere. -/
theorem builtIn?_eq_none_iff {name : String} :
    builtIn? name = none ↔ ∀ text, (name, text) ∉ builtIn := by
  rw [Option.eq_none_iff_forall_ne_some]
  simp only [ne_eq, builtIn?_eq_some_iff, not_exists, not_and]
  constructor
  · intro h text hmem
    exact h _ text hmem rfl
  · intro h body text hmem
    exact absurd hmem (h text)

end Rules

namespace Provisioner

/-! ## Where a resource comes from -/

section Sources

variable (p : Provisioner) (content : Path → Except Failure Bytes) (resource : String)

/-- There is no directory of scripts, or nothing in it for a resource. -/
def Missing : Prop :=
  ∀ dir, p.overlay = some dir → content (Path.join dir (Text.octets resource)) = .error .noEntry

/-- What there is for a resource, where `content` tells what reading a path comes to. -/
inductive Serves : Bytes → Prop
  | overlay {dir : Path} {body : Bytes} (stays : ¬Path.Leaves (Text.octets resource))
      (hdir : p.overlay = some dir)
      (hbody : content (Path.join dir (Text.octets resource)) = .ok body) : Serves body
  | builtIn {text : String} (missing : p.Missing content resource)
      (htext : (resource, text) ∈ Rules.builtIn) : Serves (Text.octets text)

/-- Why there is nothing for a resource. -/
inductive Refuses : ProvisionError → Prop
  | leaves (h : Path.Leaves (Text.octets resource)) : Refuses (.unknownResource resource)
  | nowhere (missing : p.Missing content resource) (h : ∀ text, (resource, text) ∉ Rules.builtIn) :
      Refuses (.unknownResource resource)
  | unreadable {dir : Path} {cause : Failure} (stays : ¬Path.Leaves (Text.octets resource))
      (hdir : p.overlay = some dir)
      (hread : content (Path.join dir (Text.octets resource)) = .error cause)
      (hcause : cause ≠ .noEntry) : Refuses (.read resource cause)

end Sources

variable {p : Provisioner} {g : Files.Guard} {resource : String} {dest : Path} {s : Scene σ}
  {body : Bytes} {e : ProvisionError}

/-- The names of the built-in resources are names in a directory. -/
theorem stays_of_builtIn {text : String} (h : (resource, text) ∈ Rules.builtIn) :
    ¬Path.Leaves (Text.octets resource) := by
  have hnames : ∀ r ∈ Rules.builtIn, Path.isRelativeName (Text.octets r.1) = true := by decide
  rw [← Path.isRelativeName_eq_false_iff, hnames _ h]
  simp

/-- For every resource there is something, or a reason why not. -/
theorem serves_or_refuses (p : Provisioner) (content : Path → Except Failure Bytes)
    (resource : String) :
    (∃ body, p.Serves content resource body) ∨ ∃ e, p.Refuses content resource e := by
  -- with nothing in the directory it is the built-in resources that decide
  have hmissing : p.Missing content resource →
      (∃ body, p.Serves content resource body) ∨ ∃ e, p.Refuses content resource e := by
    intro hmissing
    by_cases hbuiltIn : ∃ text, (resource, text) ∈ Rules.builtIn
    · obtain ⟨text, htext⟩ := hbuiltIn
      exact .inl ⟨_, .builtIn hmissing htext⟩
    · exact .inr ⟨_, .nowhere hmissing (not_exists.1 hbuiltIn)⟩
  by_cases hstays : Path.Leaves (Text.octets resource)
  · exact .inr ⟨_, .leaves hstays⟩
  · cases hdir : p.overlay with
    | none => exact hmissing (by simp [Missing, hdir])
    | some dir =>
      cases hread : content (Path.join dir (Text.octets resource)) with
      | ok body => exact .inl ⟨body, .overlay hstays hdir hread⟩
      | error cause =>
        by_cases hcause : cause = .noEntry
        · subst hcause
          refine hmissing fun dir' hdir' => ?_
          rw [hdir, Option.some_inj] at hdir'
          rw [← hdir', hread]
        · exact .inr ⟨_, .unreadable hstays hdir hread hcause⟩

/-! ## Loading -/

/-- Without a file for a resource the built-in one is answered. -/
theorem Missing.load (h : p.Missing (g.readFile s.files) resource)
    (hstays : ¬Path.Leaves (Text.octets resource)) :
    (p.load (.guarded g) resource).runOn s = (loadBuiltIn resource, s) := by
  rw [load_of_stays _ _ hstays]
  cases hdir : p.overlay with
  | none => rfl
  | some dir =>
    dsimp only
    rw [Disk.guarded, Act.runOn_bind, Act.runOn_look, h dir hdir]
    rfl

/-- What there is for a resource is answered. -/
theorem Serves.load (h : p.Serves (g.readFile s.files) resource body) :
    ∃ log, (p.load (.guarded g) resource).runOn s = (.ok body, { s with log := log }) := by
  cases h with
  | overlay stays hdir hbody =>
    rw [load_of_stays _ _ stays, hdir]
    dsimp only
    rw [Disk.guarded, Act.runOn_bind, Act.runOn_look, hbody]
    exact ⟨_, rfl⟩
  | builtIn missing htext =>
    rw [missing.load (stays_of_builtIn htext), loadBuiltIn,
      Rules.builtIn?_eq_some_iff.2 ⟨_, htext, rfl⟩]
    exact ⟨s.log, rfl⟩

/-- Why there is nothing for a resource is answered, and nothing happens. -/
theorem Refuses.load (h : p.Refuses (g.readFile s.files) resource e) :
    (p.load (.guarded g) resource).runOn s = (.error e, s) := by
  cases h with
  | leaves h =>
    rw [load_of_leaves _ _ h]
    rfl
  | nowhere missing h =>
    by_cases hstays : Path.Leaves (Text.octets resource)
    · rw [load_of_leaves _ _ hstays]
      rfl
    · rw [missing.load hstays, loadBuiltIn, Rules.builtIn?_eq_none_iff.2 h]
  | unreadable stays hdir hread hcause =>
    rw [load_of_stays _ _ stays, hdir]
    dsimp only
    rw [Disk.guarded, Act.runOn_bind, Act.runOn_look, hread]
    dsimp only
    rw [answer, if_neg (by simpa [Failure.isNotFound] using hcause)]
    rfl

/-! ## Provisioning -/

/-- Without anything for a resource nothing happens. -/
theorem Refuses.provisionOn (h : p.Refuses (g.readFile s.files) resource e) (dest : Path) :
    (p.provisionOn (.guarded g) resource dest).runOn s = (.error e, s) := by
  rw [Provisioner.provisionOn, Act.runOn_bind, h.load]
  rfl

/-- What there is for a resource is written to the destination. -/
theorem Serves.provisionOn_ok {written : Files.Tree}
    (h : p.Serves (g.readFile s.files) resource body)
    (hwrite : g.writeFile s.files dest body = .ok written) :
    ∃ log, (p.provisionOn (.guarded g) resource dest).runOn s =
      (.ok dest, { s with files := written, log := log }) := by
  obtain ⟨log, hload⟩ := h.load
  rw [Provisioner.provisionOn, Act.runOn_bind, hload]
  dsimp only
  have hchange := Act.runOn_change_ok (σ := σ) (f := (g.writeFile · dest body))
    (s := { s with log := log }) hwrite
  rw [Act.runOn_bind, Disk.guarded, hchange]
  exact ⟨_, rfl⟩

theorem Serves.provisionOn_error {cause : Failure}
    (h : p.Serves (g.readFile s.files) resource body)
    (hwrite : g.writeFile s.files dest body = .error cause) :
    ((p.provisionOn (.guarded g) resource dest).runOn s).1 = .error (.write dest cause) := by
  obtain ⟨log, hload⟩ := h.load
  rw [Provisioner.provisionOn, Act.runOn_bind, hload]
  dsimp only
  have hchange := Act.runOn_change_error (σ := σ) (f := (g.writeFile · dest body))
    (s := { s with log := log }) hwrite
  rw [Act.runOn_bind, Disk.guarded, hchange]
  rfl

/-- How a provisioning can go: the destination is written, or it cannot be, or there is nothing to
write. -/
theorem provisionOn_cases (g : Files.Guard) (p : Provisioner) (resource : String) (dest : Path)
    (s : Scene σ) :
    let content := g.readFile s.files
    let after := (p.provisionOn (.guarded g) resource dest).runOn s
    (∃ body written, p.Serves content resource body ∧
      g.writeFile s.files dest body = .ok written ∧ after.1 = .ok dest) ∨
    (∃ body cause, p.Serves content resource body ∧
      g.writeFile s.files dest body = .error cause ∧ after.1 = .error (.write dest cause)) ∨
    ∃ e, p.Refuses content resource e ∧ after.1 = .error e := by
  intro content after
  rcases serves_or_refuses p content resource with ⟨body, hbody⟩ | ⟨e, he⟩
  · cases hwrite : g.writeFile s.files dest body with
    | ok written =>
      obtain ⟨log, hrun⟩ := hbody.provisionOn_ok hwrite
      exact .inl ⟨body, written, hbody, hwrite, congrArg Prod.fst hrun⟩
    | error cause =>
      exact .inr (.inl ⟨body, cause, hbody, hwrite, hbody.provisionOn_error hwrite⟩)
  · exact .inr (.inr ⟨e, he, congrArg Prod.fst (he.provisionOn dest)⟩)

/-- What a provisioning answers and leaves, whatever the system refuses besides. The destination is
answered exactly if there is something for the resource and it can be written, and then the
destination holds just that, all else being as it was. Every failure is told apart: where there is
nothing for the resource, or what there is cannot be read, nothing at all has changed, and what
cannot be written is a failure of the destination. -/
theorem provision_served (g : Files.Guard) (p : Provisioner) (resource : String) (dest : Path)
    (s : Scene σ) :
    let content := g.readFile s.files
    let after := (p.provisionOn (.guarded g) resource dest).runOn s
    p.provision resource dest = p.provisionOn (σ := σ) (.guarded .none) resource dest ∧
    (∀ path, after.1 = .ok path ↔ path = dest ∧ ∃ body written,
      p.Serves content resource body ∧ g.writeFile s.files dest body = .ok written) ∧
    (∀ body written, p.Serves content resource body →
      g.writeFile s.files dest body = .ok written →
        after.2.files = written ∧ written.read dest = .ok body ∧
        ∃ place entry, written.entry? place = some entry ∧ entry.node = .file body ∧
          ∀ other, other ≠ place → written.entry? other = s.files.entry? other) ∧
    (∀ e, after.1 = .error e ↔ p.Refuses content resource e ∨ ∃ body cause,
      p.Serves content resource body ∧ g.writeFile s.files dest body = .error cause ∧
        e = .write dest cause) ∧
    (∀ e, p.Refuses content resource e → after = (.error e, s)) := by
  intro content after
  -- a body is served and written, served and not written, or refused; the answers tell which
  have hcases := provisionOn_cases g p resource dest s
  refine ⟨rfl, ?_, ?_, ?_, fun e h => h.provisionOn dest⟩
  · intro path
    constructor
    · intro hok
      rcases hcases with ⟨body, written, hbody, hwrite, hafter⟩ | ⟨_, _, -, -, hafter⟩ |
        ⟨_, -, hafter⟩
      · exact ⟨Except.ok.inj (hok.symm.trans hafter), body, written, hbody, hwrite⟩
      · cases hok.symm.trans hafter
      · cases hok.symm.trans hafter
    · rintro ⟨rfl, body, written, hbody, hwrite⟩
      obtain ⟨log, hrun⟩ := hbody.provisionOn_ok hwrite
      exact congrArg Prod.fst hrun
  · intro body written hbody hwrite
    obtain ⟨log, hrun⟩ := hbody.provisionOn_ok hwrite
    have hwritten := Files.Guard.write_of_writeFile hwrite
    exact ⟨congrArg (·.2.files) hrun, Files.Tree.read_write hwritten,
      Files.Tree.write_elsewhere hwritten⟩
  · intro e
    constructor
    · intro herror
      rcases hcases with ⟨_, _, -, -, hafter⟩ | ⟨body, cause, hbody, hwrite, hafter⟩ |
        ⟨e', he', hafter⟩
      · cases herror.symm.trans hafter
      · cases herror.symm.trans hafter
        exact .inr ⟨body, cause, hbody, hwrite, rfl⟩
      · cases herror.symm.trans hafter
        exact .inl he'
    · rintro (he | ⟨body, cause, hbody, hwrite, rfl⟩)
      · exact congrArg Prod.fst (he.provisionOn dest)
      · exact hbody.provisionOn_error hwrite

end Provisioner

end SelfTrace
