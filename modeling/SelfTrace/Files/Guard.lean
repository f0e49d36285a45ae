import SelfTrace.Files.Access

/-!
# Systems that refuse

A system can refuse what its files would allow: the caller may lack a permission, a device may be
broken. A `Guard` tells what is refused and with which failure; what is not refused goes as it does
for the files alone.
-/

namespace SelfTrace.Files

/-- What a system refuses besides what its files do. -/
structure Guard where
  /-- To look at what a path leads to. -/
  look : Tree → Path → Option Failure
  read : Tree → Path → Option Failure
  write : Tree → Path → Option Failure

namespace Guard

/-- Nothing is refused. -/
def none : Guard := ⟨fun _ _ => .none, fun _ _ => .none, fun _ _ => .none⟩

/-- What a path leads to, links followed, if looking at it is not refused. -/
def find (g : Guard) (t : Tree) (path : Path) : Except Failure Entry :=
  match g.look t path with
  | some e => .error e
  | .none => t.find true path

/-- A regular file that someone may execute, links followed. What cannot be looked at is none. -/
def isExecutable (g : Guard) (t : Tree) (path : Path) : Bool :=
  match g.find t path with
  | .ok ⟨_, .file _, mode, _⟩ => mode &&& 0o111 != 0
  | _ => false

/-- The content of a file, if reading it is not refused. -/
def readFile (g : Guard) (t : Tree) (path : Path) : Except Failure Bytes :=
  match g.read t path with
  | some e => .error e
  | .none => t.read path

/-- Gives a file a content, if writing it is not refused. -/
def writeFile (g : Guard) (t : Tree) (path : Path) (content : Bytes) : Except Failure Tree :=
  match g.write t path with
  | some e => .error e
  | .none => t.write path content

end Guard

end SelfTrace.Files
