/-!
# Argument templates

A template is a text in which names between braces stand for values. Only names of small letters
and underscores count; all other braces stand for themselves. Values are put in as they are: a
brace inside a value is never looked at again.

`parts` reads a template, `fill` puts the values in.
-/

namespace SelfTrace.Template

/-- A part of a template: a character that stands for itself, or a name that stands for a value. -/
inductive Part where
  | char (c : Char)
  | slot (name : List Char)
deriving DecidableEq, Repr

/-- A character of a name. -/
def isNameChar (c : Char) : Bool := ('a' ≤ c && c ≤ 'z') || c == '_'

/-- The name in front of a closing brace, behind an opening one. -/
def slotName? (tail : List Char) : Option (List Char) :=
  let name := tail.takeWhile isNameChar
  if !name.isEmpty && (tail.dropWhile isNameChar).head? == some '\x7d' then some name else none

/-- The parts of a template. `skip` counts the characters that belong to a name already read. -/
def partsFrom : Nat → List Char → List Part
  | _, [] => []
  | skip + 1, _ :: cs => partsFrom skip cs
  | 0, c :: cs =>
    if c == '\x7b' then
      match slotName? cs with
      | some name => .slot name :: partsFrom (name.length + 1) cs
      | none => .char c :: partsFrom 0 cs
    else .char c :: partsFrom 0 cs

/-- The parts of a template. -/
def parts (template : List Char) : List Part := partsFrom 0 template

theorem partsFrom_eq_parts_drop (skip : Nat) (cs : List Char) :
    partsFrom skip cs = parts (cs.drop skip) := by
  induction cs generalizing skip with
  | nil => cases skip <;> rfl
  | cons c cs ih =>
    cases skip with
    | zero => rfl
    | succ n => simp [partsFrom, ih]

/-- The value of a name; the first of one name counts. -/
def value? (values : List (List Char × List Char)) (name : List Char) : Option (List Char) :=
  (values.find? (·.1 == name)).map (·.2)

/-- What a part becomes; a name without a value is handed back. -/
def fillPart (values : List (List Char × List Char)) : Part → Except (List Char) (List Char)
  | .char c => .ok [c]
  | .slot name =>
    match value? values name with
    | some v => .ok v
    | none => .error name

/-- The text of some parts with the values in place, or the leftmost name without a value. -/
def fillParts (values : List (List Char × List Char)) :
    List Part → Except (List Char) (List Char)
  | [] => .ok []
  | p :: ps =>
    match fillPart values p with
    | .error name => .error name
    | .ok text =>
      match fillParts values ps with
      | .error name => .error name
      | .ok rest => .ok (text ++ rest)

/-- A template with the values in place, or the leftmost name without a value. -/
def fill (values : List (List Char × List Char)) (template : List Char) :
    Except (List Char) (List Char) := fillParts values (parts template)

end SelfTrace.Template
