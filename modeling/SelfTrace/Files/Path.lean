import SelfTrace.Text.Utf8

/-!
# Paths

A path is a sequence of octets; a slash separates names. The functions here look at the text of a
path alone, never at what it names.

* `components` — the parts of a path, repeated slashes and inner dots left out;
* `join` — a path below another one, or in its place when it starts at the root;
* `isRelativeName` — names alone: a path that cannot leave the directory it is joined to.
-/

namespace SelfTrace

/-- The path of a file. -/
abbrev Path := Bytes

namespace Path

/-- The octet between names. -/
def slash : UInt8 := 0x2F

/-- The name of a directory itself. -/
def dot : Bytes := [0x2E]

/-- The name of the directory above. -/
def dotDot : Bytes := [0x2E, 0x2E]

/-- Cuts octets at each `sep`; one more part than there are separators. -/
def splitOn (sep : UInt8) : Bytes → List Bytes
  | [] => [[]]
  | b :: bs =>
    if b == sep then [] :: splitOn sep bs
    else match splitOn sep bs with
      | [] => [[b]]
      | part :: parts => (b :: part) :: parts

theorem splitOn_ne_nil (sep : UInt8) (bs : Bytes) : splitOn sep bs ≠ [] := by
  cases bs with
  | nil => simp [splitOn]
  | cons b bs =>
    unfold splitOn
    split
    · simp
    · split <;> simp

/-- The parts with the separator between them are what was cut. -/
theorem intercalate_splitOn (sep : UInt8) (bs : Bytes) :
    [sep].intercalate (splitOn sep bs) = bs := by
  induction bs with
  | nil => simp [splitOn, List.intercalate]
  | cons b bs ih =>
    obtain ⟨part, parts, e⟩ := List.exists_cons_of_ne_nil (splitOn_ne_nil sep bs)
    rw [e] at ih
    unfold splitOn
    by_cases h : b == sep
    · simp [h, e, List.intercalate] at ih ⊢
      simp_all
    · cases parts <;> simp_all [List.intercalate]

/-- The names of a path as they stand, empty ones included. -/
def rawNames (p : Path) : List Bytes := splitOn slash p

def isAbsolute (p : Path) : Bool := p.head? == some slash

/-! ## Components -/

/-- A part of a path. -/
inductive Component where
  | root
  | current
  | parent
  | name (n : Bytes)
deriving DecidableEq, Repr

/-- The part that a name stands for; empty names and dots stand for none. -/
def component? (n : Bytes) : Option Component :=
  if n.isEmpty || n == dot then none
  else if n == dotDot then some .parent
  else some (.name n)

/-- The parts of a path. A dot counts only at the start of a relative path. -/
def components (p : Path) : List Component :=
  let names := rawNames p
  let first : List Component :=
    if isAbsolute p then [.root] else if names.head? == some dot then [.current] else []
  first ++ names.filterMap component?

/-- The parts of the directory that a path lies in; the root lies in none. -/
def parent? (p : Path) : Option (List Component) :=
  match (components p).getLast? with
  | none | some .root => none
  | some _ => some (components p).dropLast

/-- The last part of a path, if it is a name. -/
def fileName? (p : Path) : Option Bytes :=
  match (components p).getLast? with
  | some (.name n) => some n
  | _ => none

/-- A path without the slashes at its end. -/
def bare (p : Path) : Path := (p.reverse.dropWhile (· == slash)).reverse

/-- Names without the empty ones and the dots at their end, which lead nowhere. -/
def settled (names : List Bytes) : List Bytes :=
  (names.reverse.dropWhile fun n => n.isEmpty || n == dot).reverse

/-- The path of the directory that a path lies in, as text: without its last part. It is empty for
a path of one name. -/
def above (p : Path) : Path :=
  let kept := settled (settled (rawNames p)).dropLast
  if kept.isEmpty && isAbsolute p then [slash] else [slash].intercalate kept

/-! ## Building paths -/

/-- A path below a directory. -/
def join (dir p : Path) : Path :=
  if isAbsolute p then p
  else if dir.isEmpty then p
  else if dir.getLast? == some slash then dir ++ p
  else dir ++ slash :: p

/-- The path with a list of names from the root. -/
def ofNames (names : List Bytes) : Path :=
  if names.isEmpty then [slash] else names.flatMap fun n => slash :: n

/-- A path of names alone, at least one. -/
def isRelativeName (p : Path) : Bool :=
  !p.isEmpty && (components p).all fun
    | .name _ => true
    | _ => false

/-- The directories of a search path, in order, without the empty ones. -/
def searched (searchPath : Bytes) : List Path :=
  (splitOn 0x3A searchPath).filter (!·.isEmpty)

end Path

end SelfTrace
