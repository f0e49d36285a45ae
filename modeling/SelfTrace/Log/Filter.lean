import SelfTrace.Log.Event
import SelfTrace.Log.Pattern
import SelfTrace.Text.Alphanumeric
import SelfTrace.Text.Blank
import SelfTrace.Text.Order
import SelfTrace.Text.Utf8

/-!
# Filters of the log

A filter expression is a list of directives between commas. A directive gives a level to a target,
to a span or to fields: `level`, `target`, `target=level`, `target[span{field=value}]=level`. Of the
directives that fit an event the most specific one decides, and lets the event through if its level
is at least as verbose as the event.

Events are looked at outside of spans, so a directive with a span, or with the value of a field,
only counts for whether the expression is well formed.
-/

namespace SelfTrace.Log

/-! ## Levels -/

/-- A level as the rank of the least serious event that it lets through; zero lets none through. -/
abbrev LevelRank := Nat

/-- A number from 0 to 5, perhaps behind a plus sign. -/
def rankOfDigits? (cs : List Char) : Option LevelRank := do
  let ds := match cs with
    | '+' :: ds => ds
    | ds => ds
  let n ← Text.decimal? ds
  if n ≤ 5 then some n else none

/-- The level that a word names, in any case. -/
def rankOfWord? (cs : List Char) : Option LevelRank :=
  let word := String.ofList (cs.map Char.toLower)
  if word == "off" then some 0
  else if word == "error" then some 1
  else if word == "warn" then some 2
  else if word == "info" then some 3
  else if word == "debug" then some 4
  else if word == "trace" then some 5
  else none

/-- The level that a text names. -/
def rank? (cs : List Char) : Option LevelRank := (rankOfDigits? cs).or (rankOfWord? cs)

/-- The level of everything. -/
def everything : LevelRank := 5

/-! ## Directives -/

/-- Why an expression is no filter. -/
inductive FilterError where
  | directive
  | level
  | field (cause : PatternError)
deriving DecidableEq, Repr

def FilterError.message : FilterError → String
  | .directive => "invalid filter directive"
  | .level => "error parsing level filter: expected one of \"off\", \"error\", \"warn\", " ++
      "\"info\", \"debug\", \"trace\", or a number 0-5"
  | .field cause => "invalid field filter: " ++ cause.message

/-- A field that a directive asks for, and whether it asks for a value. -/
structure FieldMatch where
  name : List Char
  withValue : Bool
deriving DecidableEq, Repr

/-- A directive of a filter. -/
structure Directive where
  rank : LevelRank := everything
  target : Option (List Char) := none
  span : Option (List Char) := none
  fields : List FieldMatch := []
deriving DecidableEq, Repr

/-- Where the reading of a directive stands; the number is the octet at which the part begins. -/
inductive Reading where
  | start
  | levelOrTarget (begins : Nat)
  | span (begins : Nat)
  | field (begins : Nat)
  | fields
  | target
  | level (begins : Nat)
deriving DecidableEq, Repr

/-- The characters of a text from one octet to another. -/
def between (text : List Char) (first last : Nat) : List Char :=
  let rec go (pos : Nat) : List Char → List Char
    | [] => []
    | c :: cs =>
      if last ≤ pos then []
      else if first ≤ pos then c :: go (pos + c.utf8Size) cs
      else go (pos + c.utf8Size) cs
  go 0 text

/-- A field of a directive: a name, and a value between `=` and a further `=`. -/
def fieldMatch (text : List Char) : Except FilterError FieldMatch :=
  let name := text.takeWhile (· != '=')
  match text.dropWhile (· != '=') with
  | [] => if name.isEmpty then .error .directive else .ok ⟨name, false⟩
  | _ :: value =>
    match Pattern.problem? (value.takeWhile (· != '=')) with
    | none => .ok ⟨name, true⟩
    | some cause => .error (.field cause)

/-- A character that a directive may start with. -/
def startsDirective (c : Char) : Bool :=
  c == '-' || c == ':' || c == '_' || Text.isAlphanumeric c

/-- One step of reading a directive: the character at an octet. -/
def readStep (text : List Char) (d : Directive) (pos : Nat) (c : Char) :
    Reading → Except FilterError (Directive × Reading)
  | .start =>
    if c == '[' then .ok (d, .span (pos + 1))
    else if startsDirective c then .ok (d, .levelOrTarget pos)
    else .error .directive
  | .levelOrTarget begins =>
    if c == '=' then .ok ({ d with target := some (between text begins pos) }, .level (pos + 1))
    else if c == '[' then .ok ({ d with target := some (between text begins pos) }, .span (pos + 1))
    else .ok (d, .levelOrTarget begins)
  | .target => if c == '=' then .ok (d, .level (pos + 1)) else .error .directive
  | .span begins =>
    let name := between text begins pos
    if c == ']' then .ok ({ d with span := some name }, .target)
    else if c == '\x7b' then
      .ok ({ d with span := if name.isEmpty then none else some name }, .field (pos + 1))
    else .ok (d, .span begins)
  | .field begins =>
    if c == '\x7d' then
      match fieldMatch (between text begins pos) with
      | .ok f => .ok ({ d with fields := d.fields ++ [f] }, .fields)
      | .error e => .error e
    else .ok (d, .field begins)
  | .fields => if c == ']' then .ok (d, .target) else .error .directive
  | .level begins => .ok (d, .level begins)

/-- The rest of a directive from an octet on. -/
def readFrom (text : List Char) (d : Directive) (r : Reading) (pos : Nat) :
    List Char → Except FilterError (Directive × Reading)
  | [] => .ok (d, r)
  | c :: cs =>
    match readStep text d pos c r with
    | .ok (d, r) => readFrom text d r (pos + c.utf8Size) cs
    | .error e => .error e

/-- What the reading of a directive comes to at its end. A lone word is a level if it names one,
else a target. -/
def readEnd (text : List Char) (d : Directive) : Reading → Except FilterError Directive
  | .levelOrTarget begins =>
    let word := text.drop begins
    match rank? word with
    | some rank => .ok { d with rank := rank, target := none }
    | none => .ok { d with rank := everything, target := some word }
  | .level begins =>
    let word := between text begins (Text.octetCount text)
    if word.isEmpty then .ok { d with rank := everything }
    else match rank? word with
      | some rank => .ok { d with rank := rank }
      | none => .error .level
  | .target => .ok d
  | _ => .error .directive

/-- Reads a directive. Its blanks on both sides are passed over while reading, but its parts are cut
out of the text as it stands. -/
def readDirective (text : List Char) : Except FilterError Directive :=
  match readFrom text {} .start 0 (Text.trim text) with
  | .ok (d, r) => readEnd text d r
  | .error e => .error e

/-! ## Filters -/

/-- The pieces of a text between commas, without the empty ones. -/
def pieces (text : List Char) : List (List Char) :=
  let rec go (begun : List Char) : List Char → List (List Char)
    | [] => [begun.reverse]
    | c :: cs => if c == ',' then begun.reverse :: go [] cs else go (c :: begun) cs
  (go [] text).filter (!·.isEmpty)

/-- A filter: its directives. -/
structure Filter where
  directives : List Directive
deriving DecidableEq, Repr

namespace Filter

/-- Reads a filter expression. -/
def parse (text : List Char) : Except FilterError Filter :=
  match (pieces text).mapM readDirective with
  | .ok ds => .ok ⟨ds⟩
  | .error e => .error e

/-- A directive that can decide about an event outside of spans. -/
def decides (d : Directive) : Bool := d.span.isNone && d.fields.all (!·.withValue)

/-- How specific a directive is: the length of its target and the number of its fields. -/
def specificity (d : Directive) : Nat × Nat :=
  (match d.target with
    | none => 0
    | some t => Text.octetCount t + 1, d.fields.length)

/-- The names of the fields that a directive asks for. -/
def fieldNames (d : Directive) : List String := d.fields.map fun f => String.ofList f.name

/-- The first directive comes before the second: it is more specific or, where both are equally so,
its names of fields come later in the dictionary. -/
def comesFirst (d e : Directive) : Bool :=
  let (a, m) := specificity d
  let (b, n) := specificity e
  b < a || (a == b && (n < m || (n == m && Text.notAfter (fieldNames e) (fieldNames d))))

/-- Two directives that speak of the same events. -/
def sameScope (d e : Directive) : Bool :=
  d.target == e.target && d.fields.map (·.name) == e.fields.map (·.name)

/-- Adds a directive in place of one that speaks of the same events. -/
def add (ds : List Directive) (d : Directive) : List Directive :=
  ds.filter (!sameScope d ·) ++ [d]

/-- The directives that decide, the most specific first. -/
def deciding (f : Filter) : List Directive :=
  ((f.directives.filter decides).foldl add []).mergeSort comesFirst

/-- A directive speaks of an event: its target begins with that of the directive, and it has the
fields that the directive asks for. -/
def speaksOf (d : Directive) (e : Event) : Bool :=
  (match d.target with
    | none => true
    | some t => t.isPrefixOf e.target.toList) &&
  d.fields.all fun f => ("message" :: e.fields.map (·.1)).any (·.toList == f.name)

/-- The filter lets an event through. -/
def passes (f : Filter) (e : Event) : Bool :=
  match f.deciding.find? (speaksOf · e) with
  | some d => e.severity.rank ≤ d.rank
  | none => false

end Filter

end SelfTrace.Log
