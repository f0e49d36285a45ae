import SelfTrace.Agent.Error
import SelfTrace.Config
import SelfTrace.Files.Guard
import SelfTrace.Scene
import SelfTrace.Text.Blank

/-!
# Finding the tool

A given location is taken or refused as it is; a name is looked for in the directories of a search
path, in order. What cannot be looked at is passed over.
-/

namespace SelfTrace

/-- What tool to find, and where. -/
structure Locator where
  /-- Name of the tool. -/
  binary : String
  /-- Its location, if that is given. -/
  explicit : Option Path := none
  /-- Directories to search, in place of those of the environment. -/
  searchPath : Option Bytes := none
deriving Repr

namespace Locator

variable {σ : Type}

/-- The part of the program that these events come from. -/
def target : String := "perfdbg_exec::locator"

/-- What a configuration says of the tool. -/
def ofConfig (c : Config) : Locator := ⟨c.agentBinary, c.agentPath, none⟩

section Guarded

variable (g : Files.Guard)

/-- The first directory of a search path that has the tool. -/
def firstIn (files : Files.Tree) (binary : Bytes) (dirs : List Path) : Option Path :=
  (dirs.map (Path.join · binary)).find? (g.isExecutable files)

/-- Looks for the tool: a name with a slash in it is a location, any other is searched for. -/
def search (l : Locator) (envPath : Option Bytes) (files : Files.Tree) : Option Path :=
  let binary := Text.octets l.binary
  if binary.contains Path.slash then
    if g.isExecutable files binary then some binary else none
  else do
    let searchPath ← l.searchPath.or envPath
    firstIn g files binary (Path.searched searchPath)

/-- The location of the tool in a system that may refuse; `envPath` is the search path of the
environment. -/
def locateOn (l : Locator) (envPath : Option Bytes) : Act σ (Except LocateError Path) := do
  match l.explicit with
  | some path =>
    Act.emit ⟨.trace, target, "using explicit agent location",
      [("agent", .shown (Text.lossyText path))]⟩
    if ← Act.look (g.isExecutable · path) then return .ok path
    else return .error (.notExecutable path)
  | none =>
    if Text.blank l.binary then return .error (.notFound l.binary)
    else match ← Act.look (l.search g envPath) with
      | some path =>
        Act.emit ⟨.trace, target, "agent found on PATH",
          [("agent", .shown (Text.lossyText path))]⟩
        return .ok path
      | none => return .error (.notFound l.binary)

end Guarded

/-- The location of the tool in a system that refuses nothing. -/
def locate (l : Locator) (envPath : Option Bytes) : Act σ (Except LocateError Path) :=
  l.locateOn .none envPath

end Locator

end SelfTrace
