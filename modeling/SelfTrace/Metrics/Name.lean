import SelfTrace.Text.Blank

/-!
# Names of metrics

Which names a metric and a label may have, and how any namespace is turned into the front of a
metric's name. Main statement: `sanitize?_eq_none_iff` — only a blank namespace cannot be turned
into a name.
-/

namespace SelfTrace.Metrics

/-! ## Characters -/

/-- An ASCII letter. -/
def isLetter (c : Char) : Bool := ('a' ≤ c && c ≤ 'z') || ('A' ≤ c && c ≤ 'Z')

/-- An ASCII digit. -/
def isFigure (c : Char) : Bool := '0' ≤ c && c ≤ '9'

/-- A character that a name of a label may start with. -/
def isLabelStart (c : Char) : Bool := isLetter c || c == '_'

/-- A character that a name of a metric may start with. -/
def isMetricStart (c : Char) : Bool := isLabelStart c || c == ':'

/-- A name: a first character and others, each of which may also be a digit. -/
def isName (start : Char → Bool) : List Char → Bool
  | [] => false
  | c :: cs => start c && cs.all fun d => start d || isFigure d

/-- A name that a metric may have. -/
def validMetricName (name : List Char) : Bool := isName isMetricStart name

/-- A name that a label may have. -/
def validLabelName (name : List Char) : Bool := isName isLabelStart name

/-! ## Namespaces -/

/-- The character that stands for a character of a namespace. -/
def sanitizedChar (c : Char) : Char := if isLetter c || isFigure c then c else '_'

/-- The namespace in characters of names; `none` for a blank one. A digit in front is put behind an
underscore. -/
def sanitize? (ns : List Char) : Option (List Char) :=
  match (Text.trim ns).map sanitizedChar with
  | [] => none
  | c :: cs => some (if isFigure c then '_' :: c :: cs else c :: cs)

/-- `sanitize?` on strings. -/
def sanitizeText? (ns : String) : Option String := (sanitize? ns.toList).map String.ofList

theorem sanitize?_eq_none_iff (ns : List Char) : sanitize? ns = none ↔ Text.allBlank ns := by
  rw [← Text.trim_eq_nil_iff]
  unfold sanitize?
  cases h : Text.trim ns <;> simp

/-- The name in a namespace; an empty namespace is none. -/
def qualified (ns name : String) : String :=
  if name.isEmpty then "" else if ns.isEmpty then name else ns ++ "_" ++ name

end SelfTrace.Metrics
