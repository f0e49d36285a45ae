import SelfTrace.Config
import SelfTrace.Rules.Provisioner
import SelfTrace.Resolver.Probe
import SelfTrace.Tool.Launch
import SelfTrace.Tool.Locator

/-!
# Who helps an agent to start

The five things that a start asks for, as actions: the own process id, the location of the tool, the
rule script, an attached tool and the registration of the monitored values. `Collaborators.standard`
are those of a configuration.
-/

namespace SelfTrace

/-- An attached tool: a few words about it, and the action that takes it down. -/
structure Grip (σ : Type) where
  description : String
  release : Act σ Unit

/-- What a start asks for. -/
structure Collaborators (σ : Type) where
  /-- The own process id. -/
  resolve : Act σ (Option ProcessId)
  /-- Where the tool is. -/
  locate : Act σ (Except LocateError Path)
  /-- Writes a resource to a file; answers where it was written. -/
  provision : String → Path → Act σ (Except ProvisionError Path)
  /-- Attaches the tool at a location to a process. -/
  attach : ProcessId → Path → AgentOptions → Act σ (Except DriverError (Grip σ))
  /-- Registers the monitored values with a number: namespace, name, number. -/
  register : String → String → Nat → Act σ (Except RegistryError Unit)

/-- What a process finds around itself. -/
structure Host (σ : Type) where
  env : Environment
  /-- The directories in which programs are looked for. -/
  searchPath : Option Bytes
  /-- Ways to find the own process id. -/
  probes : List (Probe σ)
  /-- How the tool is started. -/
  os : Starter σ

namespace Collaborators

variable {σ : Type}

/-- The tool that a session keeps running. -/
def gripOf (s : Session σ) : Grip σ := ⟨s.description, s.close⟩

/-- The collaborators of a configuration: probes in order, the tool by location or in the search
path, scripts from files or built in, and a tool started by the operating system. -/
def standard (c : Config) (h : Host σ)
    (register : String → String → Nat → Act σ (Except RegistryError Unit)) : Collaborators σ where
  resolve := SelfTrace.resolve h.probes
  locate := (Locator.ofConfig c).locate h.searchPath
  provision := (Provisioner.ofConfig c).provision
  attach pid tool options := do
    match ← (Launcher.ofConfig c).attach h.os pid tool options with
    | .ok s => return .ok (gripOf s)
    | .error e => return .error e
  register := register

/-- The collaborators in words, which tell nothing about them. -/
def described : String :=
  "AttachDeps \x7b resolver: \"<resolver>\", locator: \"<locator>\", " ++
    "provisioner: \"<provisioner>\", driver: \"<driver>\", registry: \"<handle>\" \x7d"

end Collaborators

end SelfTrace
