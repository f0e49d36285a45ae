import SelfTrace.Log.Error
import SelfTrace.Log.Filter
import SelfTrace.Text.Blank

/-!
# The level of the log

A filter expression that was checked when it was read: it is not empty, has no blanks around it and
is a filter. Which expressions are filters is up to a `FilterReader`; `Filter.read` is the reader of
this library.
-/

namespace SelfTrace.Log

/-- Reads a filter expression: the filter, or in words why it is none. -/
abbrev FilterReader (φ : Type) := List Char → Except String φ

/-- Reads a filter expression of this library. -/
def Filter.read : FilterReader Filter := fun expr =>
  match Filter.parse expr with
  | .ok f => .ok f
  | .error e => .error e.message

/-- A checked filter expression. -/
structure Level where
  text : String
deriving DecidableEq, Repr

namespace Level

variable {φ : Type}

/-- The level when none is given. -/
def default : Level := ⟨"info"⟩

/-- Checks a filter expression by reading it. -/
def parseWith (read : FilterReader φ) (s : String) : Except LogError Level :=
  let expr := Text.trim s.toList
  if expr.isEmpty then .error (.invalidLevel "empty filter")
  else match read expr with
    | .ok _ => .ok ⟨String.ofList expr⟩
    | .error reason => .error (.invalidLevel (String.ofList expr ++ ": " ++ reason))

/-- The filter of a level, or another one where its expression is none. -/
def filterWith (read : FilterReader φ) (fallback : φ) (l : Level) : φ :=
  match read l.text.toList with
  | .ok f => f
  | .error _ => fallback

/-- Checks a filter expression. -/
def parse (s : String) : Except LogError Level := parseWith Filter.read s

/-- The filter of a level; an expression that is none counts as the default. -/
def filter (l : Level) : Filter :=
  l.filterWith Filter.read (default.filterWith Filter.read ⟨[]⟩)

end Level

end SelfTrace.Log
