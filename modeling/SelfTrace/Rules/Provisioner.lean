import SelfTrace.Agent.Error
import SelfTrace.Config
import SelfTrace.Rules.Script
import SelfTrace.Scene

/-!
# Provisioning rule scripts

A resource is taken from a directory of scripts, if there is one and it has the resource, else from
the built-in ones, and written to where the tool will read it. Names that could lead out of the
directory are unknown.
-/

namespace SelfTrace

/-- How files are read and written. -/
structure Disk (σ : Type) where
  read : Path → Act σ (Except Failure Bytes)
  write : Path → Bytes → Act σ (Except Failure Unit)

/-- The files of the scene. -/
def Disk.files {σ : Type} : Disk σ where
  read path := Act.look (·.read path)
  write path content := Act.change (·.write path content)

/-- Where resources are taken from before the built-in ones. -/
structure Provisioner where
  overlay : Option Path := none
deriving Repr

namespace Provisioner

variable {σ : Type}

/-- The part of the program that these events come from. -/
def target : String := "perfdbg_exec::resources"

/-- What a configuration says of the scripts. -/
def ofConfig (c : Config) : Provisioner := ⟨c.overlayDir⟩

/-- A built-in resource. -/
def loadBuiltIn (resource : String) : Except ProvisionError Bytes :=
  match Rules.builtIn? resource with
  | some body => .ok body
  | none => .error (.unknownResource resource)

/-- The content of a resource. -/
def load (disk : Disk σ) (p : Provisioner) (resource : String) :
    Act σ (Except ProvisionError Bytes) := do
  let name := Text.octets resource
  if !Path.isRelativeName name then return .error (.unknownResource resource)
  match p.overlay with
  | none => return loadBuiltIn resource
  | some dir =>
    let path := Path.join dir name
    match ← disk.read path with
    | .ok body =>
      Act.emit ⟨.debug, target, "resource served from overlay",
        [("resource", .text resource), ("path", .shown (Text.lossyText path))]⟩
      return .ok body
    | .error e =>
      if e.isNotFound then return loadBuiltIn resource else return .error (.read resource e)

/-- Writes a resource to a file on a disk and answers its path. -/
def provisionOn (disk : Disk σ) (p : Provisioner) (resource : String) (dest : Path) :
    Act σ (Except ProvisionError Path) := do
  match ← p.load disk resource with
  | .error e => return .error e
  | .ok body =>
    match ← disk.write dest body with
    | .error e => return .error (.write dest e)
    | .ok _ =>
      Act.emit ⟨.trace, target, "resource provisioned",
        [("resource", .text resource), ("script", .shown (Text.lossyText dest)),
          ("bytes", .int body.length)]⟩
      return .ok dest

/-- Writes a resource to a file of the scene and answers its path. -/
def provision (p : Provisioner) (resource : String) (dest : Path) :
    Act σ (Except ProvisionError Path) := p.provisionOn .files resource dest

end Provisioner

end SelfTrace
