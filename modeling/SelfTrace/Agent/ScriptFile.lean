import SelfTrace.Agent.Error
import SelfTrace.Scene
import SelfTrace.Text.Digits

/-!
# Temporary script files

A rule script is written to a fresh file in the directory for temporary files. How such a file is
made is a `Maker`, which a start is given.

The maker that programs run with numbers its files: a name holds a number of six digits, and the
first number is taken that no file in the directory has. A directory stands for this maker.
-/

namespace SelfTrace.ScriptFile

variable {σ : Type}

/-! ## Makers -/

/-- A way to make files in a directory for temporary files. -/
structure Maker where
  dir : Path
  /-- The path of a new file, and the files with it; or why none was made, in words. -/
  make : Files.Tree → Except String (Path × Files.Tree)

/-! ## Numbered files -/

/-- The name of a script file with a number. -/
def name (n : Nat) : Bytes := Text.octets ("perfdbgAgent" ++ Text.paddedText 6 n ++ ".bt")

/-- The path of a script file; a relative directory is one below the working directory. -/
def path (files : Files.Tree) (tempDir : Path) (n : Nat) : Path :=
  let dir := if Path.isAbsolute tempDir then tempDir
    else Path.join (Path.ofNames files.workingDir) tempDir
  Path.join dir (name n)

/-- Why a file was not made, in words. -/
def reason (p : Path) (cause : Failure) : String :=
  cause.message ++ " at path " ++ Text.quotedPath p

/-- Makes the first of some numbered files that is not there yet, from a number on. -/
def makeFrom (numbered : Nat → Path) (files : Files.Tree) (n : Nat) :
    Nat → Except String (Path × Files.Tree)
  | 0 => .error (reason (numbered n) .alreadyExists)
  | tries + 1 =>
    match files.create (numbered n) with
    | .ok made => .ok (numbered n, made)
    | .error e =>
      if e == .alreadyExists then makeFrom numbered files (n + 1) tries
      else .error (reason (numbered n) e)

/-- The maker of numbered files. One number more than there are files is enough to find a free
one. -/
def numbered (tempDir : Path) : Maker :=
  ⟨tempDir, fun files => makeFrom (path files tempDir) files 0 (files.entries.length + 1)⟩

instance : Coe Path Maker := ⟨numbered⟩

/-! ## Files of an agent -/

/-- Makes a fresh script file; answers its path. -/
def make (m : Maker) : Act σ (Except ProvisionError Path) := do
  match m.make (← get).files with
  | .error reason => return .error (.temporary m.dir reason)
  | .ok (file, files) =>
    modify fun s => { s with files := files }
    return .ok file

variable {m : Maker} {s : Scene σ}

theorem runOn_make_ok {file : Path} {files : Files.Tree} (h : m.make s.files = .ok (file, files)) :
    (make m).runOn s = (.ok file, { s with files := files }) := by
  simp [make, h]

theorem runOn_make_error {reason : String} (h : m.make s.files = .error reason) :
    (make m).runOn s = (.error (.temporary m.dir reason), s) := by
  simp [make, h]

/-- Removes a script file. -/
def remove (p : Path) : Act σ Unit := do
  let _ ← Act.change (·.remove p)

end SelfTrace.ScriptFile
