import SelfTrace.Files.Tree

/-!
# One name of a walk

A name on the way of a path is looked up in a directory. It stands for the directory itself, for the
one above it or for something in the directory, or it is too long to stand for anything.

* `Proper` — a name that stands for something in a directory;
* `NameKind` — what a name can be;
* `walk_here`, `walk_up`, `walk_long`, `walk_proper` — what a walk makes of each.
-/

namespace SelfTrace.Files.Tree

variable {t : Tree} {purpose : Purpose} {links : Nat} {here : Place} {n : Bytes} {rest : List Bytes}

/-! ## Kinds of names -/

/-- A name that stands for something in a directory, not for the directory or the one above. -/
structure Proper (n : Bytes) : Prop where
  named : (n.isEmpty || n == Path.dot) = false
  notUp : (n == Path.dotDot) = false
  short : n.length ≤ maxName

/-- What a name can be. -/
inductive NameKind (n : Bytes) : Prop where
  | here (h : (n.isEmpty || n == Path.dot) = true)
  | up (hhere : (n.isEmpty || n == Path.dot) = false) (h : (n == Path.dotDot) = true)
  | long (hhere : (n.isEmpty || n == Path.dot) = false) (hup : (n == Path.dotDot) = false)
    (h : maxName < n.length)
  | proper (h : Proper n)

theorem nameKind (n : Bytes) : NameKind n := by
  cases hhere : n.isEmpty || n == Path.dot with
  | true => exact .here hhere
  | false =>
    cases hup : n == Path.dotDot with
    | true => exact .up hhere hup
    | false =>
      rcases Nat.lt_or_ge maxName n.length with hlong | hshort
      · exact .long hhere hup hlong
      · exact .proper ⟨hhere, hup, hshort⟩

/-! ## What a walk makes of them -/

/-- A file is asked for with a slash behind its name, which asks for a directory. -/
def asksDir (purpose : Purpose) (rest : List Bytes) : Bool :=
  purpose = .file && !rest.isEmpty && rest.all (·.isEmpty)

theorem asksDir_of_ne (h : purpose ≠ .file) (rest : List Bytes) :
    asksDir purpose rest = false := by
  simp [asksDir, h]

theorem walk_not_dir (h : t.isDir here = false) :
    t.walk purpose links here (n :: rest) = .error .notDirectory := by
  rw [walk_eq, h]
  rfl

theorem walk_here (hdir : t.isDir here = true) (h : (n.isEmpty || n == Path.dot) = true) :
    t.walk purpose links here (n :: rest) = t.walk purpose links here rest := by
  rw [walk_eq, hdir, h]
  rfl

theorem walk_up (hdir : t.isDir here = true) (hhere : (n.isEmpty || n == Path.dot) = false)
    (h : (n == Path.dotDot) = true) :
    t.walk purpose links here (n :: rest) = t.walk purpose links here.dropLast rest := by
  rw [walk_eq, hdir, hhere, h]
  rfl

theorem walk_long (hdir : t.isDir here = true) (hhere : (n.isEmpty || n == Path.dot) = false)
    (hup : (n == Path.dotDot) = false) (h : maxName < n.length) :
    t.walk purpose links here (n :: rest) =
      if asksDir purpose rest then .error .isDirectory else .error .nameTooLong := by
  rw [walk_eq, hdir, hhere, hup, if_pos h]
  rfl

theorem walk_proper (hdir : t.isDir here = true) (hn : Proper n) :
    t.walk purpose links here (n :: rest) =
      if asksDir purpose rest then .error .isDirectory
      else match t.entry? (here ++ [n]) with
        | none => if rest.isEmpty then .ok (.absent here n) else .error .noEntry
        | some ⟨_, .link target, _, _⟩ =>
          if rest.isEmpty && purpose = .name then .ok (.at (here ++ [n]))
          else match links with
            | 0 => .error .tooManyLinks
            | links + 1 =>
              let start := if Path.isAbsolute target then [] else here
              t.walk purpose links start (Path.rawNames target ++ rest)
        | some _ => t.walk purpose links (here ++ [n]) rest := by
  rw [walk_eq, hdir, hn.named, hn.notUp, if_neg (Nat.not_lt.2 hn.short)]
  rfl

end SelfTrace.Files.Tree
