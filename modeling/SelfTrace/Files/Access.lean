import SelfTrace.Files.Tree

/-!
# Reading and changing files

The calls that the library makes on a tree of files: reading, writing, listing, making and
removing. Each answers as the operating system does for a caller whom no permission stops.
-/

namespace SelfTrace.Files.Tree

/-! ## Looking -/

/-- The content of a file. -/
def read (t : Tree) (p : Path) : Except Failure Bytes :=
  match t.find true p with
  | .error e => .error e
  | .ok e =>
    match e.node with
    | .file content => .ok content
    | _ => .error .isDirectory

/-- The first octets of a file. -/
def readFront (t : Tree) (p : Path) (count : Nat) : Except Failure Bytes :=
  (t.read p).map (·.take count)

/-- There is something at the end of a path, links followed. -/
def exists? (t : Tree) (p : Path) : Bool := (t.find true p).toBool

/-- Where a link leads. -/
def readLink (t : Tree) (p : Path) : Except Failure Path :=
  match t.find false p with
  | .error e => .error e
  | .ok e =>
    match e.node with
    | .link target => .ok target
    | _ => .error .invalidArgument

/-- The path without links, dots and repeated slashes of what a path leads to. -/
def canonical (t : Tree) (p : Path) : Except Failure Path :=
  match t.find true p with
  | .error e => .error e
  | .ok e => .ok (Path.ofNames e.place)

/-- Two paths lead to the same place. -/
def sameFile (t : Tree) (p q : Path) : Bool :=
  match t.canonical p, t.canonical q with
  | .ok a, .ok b => a == b
  | _, _ => false

/-- The names in a directory, in the order in which they were made. -/
def list (t : Tree) (p : Path) : Except Failure (List Bytes) :=
  match t.find true p with
  | .error e => .error e
  | .ok e =>
    match e.node with
    | .dir => .ok (t.namesIn e.place)
    | _ => .error .notDirectory

/-- What a directory holds under a name: a link itself, not what it leads to. -/
def examine (t : Tree) (dir : Place) (name : Bytes) : Except Failure Entry :=
  match t.entry? (dir ++ [name]) with
  | some e => .ok e
  | none => .error .noEntry

/-- The names in a directory, each with what the directory holds under it. -/
def examineAll (t : Tree) (p : Path) : Except Failure (List (Bytes × Except Failure Entry)) :=
  match t.find true p with
  | .error e => .error e
  | .ok e =>
    match e.node with
    | .dir => .ok ((t.namesIn e.place).map fun name => (name, t.examine e.place name))
    | _ => .error .notDirectory

/-! ## Changing -/

/-- Gives a file a content, making it if it is not there. -/
def write (t : Tree) (p : Path) (content : Bytes) : Except Failure Tree :=
  match t.resolve .file p with
  | .error e => .error e
  | .ok (.absent dir name) => .ok (t.insert ⟨dir ++ [name], .file content, 0o644, 0⟩)
  | .ok (.at place) =>
    match t.entry? place with
    | none => .error .noEntry
    | some e =>
      match e.node with
      | .dir => .error .isDirectory
      | _ => .ok (t.insert { e with node := .file content })

/-- Makes a file that is not there yet, without content, for its owner alone. -/
def create (t : Tree) (p : Path) : Except Failure Tree :=
  match t.resolve .name p with
  | .error e => .error e
  | .ok (.at _) => .error .alreadyExists
  | .ok (.absent dir name) => .ok (t.insert ⟨dir ++ [name], .file [], 0o600, 0⟩)

/-- Makes a directory. -/
def makeDir (t : Tree) (p : Path) : Except Failure Tree :=
  match t.resolve .name (if (Path.bare p).isEmpty then p else Path.bare p) with
  | .error e => .error e
  | .ok (.at _) => .error .alreadyExists
  | .ok (.absent dir name) => .ok (t.insert ⟨dir ++ [name], .dir, 0o755, 0⟩)

/-- A directory is at the end of a path, links followed. -/
def leadsToDir (t : Tree) (p : Path) : Bool :=
  match t.find true p with
  | .ok e => e.node == .dir
  | .error _ => false

/-- Makes a directory; one that is there is as good. -/
def ensureDir (t : Tree) (p : Path) : Tree × Except Failure Unit :=
  match t.makeDir p with
  | .ok t => (t, .ok ())
  | .error e => (t, if t.leadsToDir p then .ok () else .error e)

/-- A directory cannot be made, since one above it is missing. -/
def lacksAbove (t : Tree) (p : Path) : Bool :=
  match t.makeDir p with
  | .ok _ => false
  | .error e => e.isNotFound

/-- Makes a directory, and before it those above it that are missing. What was made stays, also if
not all could be made. The number bounds how far up to go. -/
def makeDirs (t : Tree) (p : Path) : Nat → Tree × Except Failure Unit
  | 0 => (t, .error .noEntry)
  | fuel + 1 =>
    if p.isEmpty then (t, .ok ())
    else if t.lacksAbove p then
      match makeDirs t (Path.above p) fuel with
      | (t, .error e) => (t, .error e)
      | (t, .ok _) => t.ensureDir p
    else t.ensureDir p

/-- Makes a directory and those above it that are missing; one that is there is left as it is. -/
def makeAllDirs (t : Tree) (p : Path) : Tree × Except Failure Unit := t.makeDirs p (p.length + 1)

/-- Removes a file or a link. -/
def remove (t : Tree) (p : Path) : Except Failure Tree :=
  match t.find false p with
  | .error e => .error e
  | .ok e =>
    match e.node with
    | .dir => .error .isDirectory
    | _ => .ok (t.erase e.place)

end SelfTrace.Files.Tree
