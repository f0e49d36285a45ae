import SelfTrace.Files.Access

/-!
# Laying out trees

A tree is laid out item by item. The directories above an item are made, a directory or a link that
cannot be made is left out, and mode and owner are set where they are given.
-/

namespace SelfTrace.Files

/-- Something to put into a tree. -/
structure Item where
  path : Path
  node : Node
  mode : Option Nat := none
  owner : Option Nat := none
deriving Repr

namespace Tree

/-- A change that is left out if it fails. -/
def attempt (t : Tree) (f : Tree → Except Failure Tree) : Tree :=
  match f t with
  | .ok t => t
  | .error _ => t

/-- Changes the entry at the end of a path, if there is one. -/
def amend (t : Tree) (follow : Bool) (p : Path) (f : Entry → Entry) : Tree :=
  match t.find follow p with
  | .ok e => t.insert (f e)
  | .error _ => t

/-- Makes a link. -/
def makeLink (t : Tree) (p target : Path) : Except Failure Tree :=
  match t.resolve .name p with
  | .error e => .error e
  | .ok (.at _) => .error .alreadyExists
  | .ok (.absent dir name) => .ok (t.insert ⟨dir ++ [name], .link target, 0o777, 0⟩)

/-- Puts an item into a tree. -/
def lay (t : Tree) (i : Item) : Tree :=
  let (t, _) := t.makeAllDirs (Path.above i.path)
  let t := match i.node with
    | .file content => t.attempt (·.write i.path content)
    | .link target => t.attempt (·.makeLink i.path target)
    | .dir => (t.makeAllDirs i.path).1
  let t := match i.mode with
    | some mode => t.amend true i.path fun e => { e with mode := mode }
    | none => t
  match i.owner with
  | some owner => t.amend false i.path fun e => { e with owner := owner }
  | none => t

/-- Puts items into a tree, in order. -/
def layAll (t : Tree) (items : List Item) : Tree := items.foldl lay t

end Tree

end SelfTrace.Files
