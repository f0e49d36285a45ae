import SelfTrace.Files.Failure
import SelfTrace.Files.Path

/-!
# Trees of files

A tree gives a node to some places. A place is the list of names that lead to it from the root, no
link among them. `resolve` follows a path through directories and links to a place.
-/

namespace SelfTrace.Files

/-- Where something is: names from the root. -/
abbrev Place := List Bytes

/-- What a place holds. -/
inductive Node where
  | file (content : Bytes)
  | dir
  | link (target : Path)
deriving DecidableEq, Repr

/-- A node at its place, with its permissions and its owner. -/
structure Entry where
  place : Place
  node : Node
  mode : Nat
  owner : Nat
deriving DecidableEq, Repr

/-- A tree of files. The root is there and is a directory without being listed. -/
structure Tree where
  entries : List Entry := []
  /-- Where relative paths start. -/
  workingDir : Place := []
deriving Repr

namespace Tree

/-! ## Places -/

/-- The directory at the root. -/
def rootEntry : Entry := ⟨[], .dir, 0o755, 0⟩

/-- What is at a place. -/
def entry? (t : Tree) (p : Place) : Option Entry :=
  if p.isEmpty then some rootEntry else t.entries.find? (·.place == p)

/-- There is a directory at a place. -/
def isDir (t : Tree) (p : Place) : Bool :=
  match t.entry? p with
  | some e => e.node == .dir
  | none => false

/-- Puts an entry at its place, in place of what was there. -/
def insert (t : Tree) (e : Entry) : Tree :=
  { t with entries := t.entries.filter (·.place != e.place) ++ [e] }

/-- Takes away what is at a place. -/
def erase (t : Tree) (p : Place) : Tree :=
  { t with entries := t.entries.filter (·.place != p) }

/-- The names in a directory, in the order in which they were made. -/
def namesIn (t : Tree) (p : Place) : List Bytes :=
  t.entries.filterMap fun e =>
    match e.place.getLast? with
    | some n => if e.place.dropLast == p then some n else none
    | none => none

/-! ## Following paths -/

/-- Where a path leads: to something that is there, or to a free name in a directory. -/
inductive Target where
  | at (place : Place)
  | absent (dir : Place) (name : Bytes)
deriving DecidableEq, Repr

/-- What a path is followed for. -/
inductive Purpose where
  /-- The last name itself, be it a link. -/
  | name
  /-- What the last name leads to. -/
  | target
  /-- What the last name leads to, to be made a file if it is not there: a slash behind the name
  asks for a directory and is refused. -/
  | file
deriving DecidableEq, Repr

/-- The longest name and the longest path. -/
def maxName : Nat := 255
def maxPath : Nat := 4095

/-- How many links one path may lead through. -/
def maxLinks : Nat := 40

/-- Follows names from a place. A link on the way is followed by `follow`, which is given the
directory that the link is in, what the link holds and the names after it. -/
def walkWith (t : Tree) (purpose : Purpose)
    (follow : Place → Path → List Bytes → Except Failure Target) (here : Place) :
    List Bytes → Except Failure Target
  | [] => .ok (.at here)
  | n :: rest =>
    if !t.isDir here then .error .notDirectory
    else if n.isEmpty || n == Path.dot then walkWith t purpose follow here rest
    else if n == Path.dotDot then walkWith t purpose follow here.dropLast rest
    else if purpose = .file && !rest.isEmpty && rest.all (·.isEmpty) then .error .isDirectory
    else if maxName < n.length then .error .nameTooLong
    else match t.entry? (here ++ [n]) with
      | none => if rest.isEmpty then .ok (.absent here n) else .error .noEntry
      | some ⟨_, .link target, _, _⟩ =>
        if rest.isEmpty && purpose = .name then .ok (.at (here ++ [n]))
        else follow here target rest
      | some _ => walkWith t purpose follow (here ++ [n]) rest

/-- Follows names from a place; the number is how many links may still be followed. -/
def walk (t : Tree) (purpose : Purpose) : Nat → Place → List Bytes → Except Failure Target
  | 0 => t.walkWith purpose fun _ _ _ => .error .tooManyLinks
  | links + 1 => t.walkWith purpose fun here target rest =>
    let start := if Path.isAbsolute target then [] else here
    walk t purpose links start (Path.rawNames target ++ rest)

@[simp]
theorem walk_nil (t : Tree) (purpose : Purpose) (links : Nat) (here : Place) :
    t.walk purpose links here [] = .ok (.at here) := by
  cases links with
  | zero => rw [walk, walkWith]
  | succ links => rw [walk, walkWith]

/-- What a name comes to in a walk. -/
theorem walk_eq (t : Tree) (purpose : Purpose) (links : Nat) (here : Place) (n : Bytes)
    (rest : List Bytes) :
    t.walk purpose links here (n :: rest) =
      if !t.isDir here then .error .notDirectory
      else if n.isEmpty || n == Path.dot then t.walk purpose links here rest
      else if n == Path.dotDot then t.walk purpose links here.dropLast rest
      else if purpose = .file && !rest.isEmpty && rest.all (·.isEmpty) then .error .isDirectory
      else if maxName < n.length then .error .nameTooLong
      else match t.entry? (here ++ [n]) with
        | none => if rest.isEmpty then .ok (.absent here n) else .error .noEntry
        | some ⟨_, .link target, _, _⟩ =>
          if rest.isEmpty && purpose = .name then .ok (.at (here ++ [n]))
          else match links with
            | 0 => .error .tooManyLinks
            | links + 1 =>
              let start := if Path.isAbsolute target then [] else here
              t.walk purpose links start (Path.rawNames target ++ rest)
        | some _ => t.walk purpose links (here ++ [n]) rest := by
  cases links with
  | zero => rfl
  | succ links => rfl

-- A walk is opened by its equations alone.
attribute [irreducible] walk

/-- Where a path leads. -/
def resolve (t : Tree) (purpose : Purpose) (p : Path) : Except Failure Target :=
  if p.contains 0 then .error .nulInPath
  else if p.isEmpty then .error .noEntry
  else if maxPath < p.length then .error .nameTooLong
  else t.walk purpose maxLinks (if Path.isAbsolute p then [] else t.workingDir) (Path.rawNames p)

/-- What a path leads to, which must be there. A link at its end is followed if `follow` says so. -/
def find (t : Tree) (follow : Bool) (p : Path) : Except Failure Entry :=
  match t.resolve (if follow then .target else .name) p with
  | .error e => .error e
  | .ok (.absent _ _) => .error .noEntry
  | .ok (.at place) =>
    match t.entry? place with
    | some e => .ok e
    | none => .error .noEntry

end Tree

end SelfTrace.Files
