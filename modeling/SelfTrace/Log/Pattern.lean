import SelfTrace.Text.Alphanumeric
import SelfTrace.Text.Blank
import SelfTrace.Text.Digits

/-!
# Patterns for the values of fields

A filter may ask for the value of a field by a number or by a regular expression. An expression is
only checked here: `problem?` tells what is wrong with it, if anything. It stands inside of braces,
so it holds no closing brace, and whatever needs one is refused: a count of repetitions, and a
character by its number in braces.

An expression is matched with nothing but the numbers of characters. So classes that a table of
characters would have to tell are refused, and so is ignoring case, as long as the expression is
about characters and not, with the flag `u` turned off, about octets. About octets no expression may
match what is no text.

The check goes through an expression once. It keeps the groups that are open, with the flags that
come back into force behind them, and how deep the parts of each are nested.
-/

namespace SelfTrace.Log

/-- Why an expression is no pattern. -/
inductive PatternError where
  | malformed
  | wordBoundary
deriving DecidableEq, Repr

def PatternError.message : PatternError → String
  | .malformed => "error building NFA"
  | .wordBoundary => "unsupported regex feature for DFAs: cannot build DFAs for regexes with " ++
      "Unicode word boundaries; switch to ASCII word boundaries, or heuristically enable " ++
      "Unicode word boundaries or use a different regex engine"

namespace Pattern

/-! ## Numbers -/

/-- A number with a point and an exponent, each perhaps missing. -/
def isDecimal (cs : List Char) : Bool :=
  let whole := cs.takeWhile Text.isDigit
  let rest := cs.dropWhile Text.isDigit
  let (part, rest) := match rest with
    | '.' :: rest => (rest.takeWhile Text.isDigit, rest.dropWhile Text.isDigit)
    | rest => ([], rest)
  let exponent := match rest with
    | [] => true
    | 'e' :: '+' :: ds | 'e' :: '-' :: ds | 'E' :: '+' :: ds | 'E' :: '-' :: ds
    | 'e' :: ds | 'E' :: ds => (Text.decimal? ds).isSome
    | _ => false
  !(whole.isEmpty && part.isEmpty) && exponent

/-- A number behind a sign or none. -/
def isNumber (cs : List Char) : Bool :=
  let cs := match cs with
    | '+' :: cs | '-' :: cs => cs
    | cs => cs
  let word := String.ofList (cs.map Char.toLower)
  word == "inf" || word == "infinity" || word == "nan" || isDecimal cs

/-! ## Flags -/

/-- The flags in force. -/
structure Flags where
  ignoreCase : Bool := false
  /-- The expression is about characters, else about octets. -/
  unicode : Bool := true
  /-- Blanks and comments are passed over. -/
  spaced : Bool := false
deriving DecidableEq, Repr

/-- The letters of all flags. -/
def flagLetters : List Char := ['i', 'm', 's', 'U', 'u', 'R', 'x']

/-- Turns a flag on or off. -/
def Flags.put (f : Flags) (letter : Char) (on : Bool) : Flags :=
  if letter == 'i' then { f with ignoreCase := on }
  else if letter == 'u' then { f with unicode := on }
  else if letter == 'x' then { f with spaced := on }
  else f

/-- Passes over blanks, and over comments up to the end of their line. -/
def passOver (comment : Bool) : List Char → List Char
  | [] => []
  | c :: cs =>
    if comment then passOver (c != '\n') cs
    else if c == '#' then passOver true cs
    else if Text.isBlank c then passOver false cs
    else c :: cs

/-- What is to be read next. -/
def Flags.skip (f : Flags) (cs : List Char) : List Char :=
  if f.spaced then passOver false cs else cs

/-! ## Characters -/

/-- A part that matches one character or a place. -/
inductive Part where
  /-- A character; `octet` if it is given by the two digits of an octet. -/
  | char (c : Char) (octet : Bool)
  /-- Digits, blanks or the characters of words, or all but these. -/
  | kind (negated : Bool)
  /-- The boundary of a word. -/
  | boundary
  /-- The start or the end of the text. -/
  | edge
deriving DecidableEq, Repr

/-- A character that means something else than itself in some place. -/
def isMeta (c : Char) : Bool :=
  ['\\', '.', '+', '*', '?', '(', ')', '|', '[', ']', '\x7b', '\x7d', '^', '$', '#', '&', '-',
    '~'].contains c

/-- A character that stands for itself behind a backslash. -/
def standsForItself (c : Char) : Bool :=
  isMeta c || (c.toNat < 0x80 && !c.isAlphanum && c != '<' && c != '>')

/-- The characters that a letter behind a backslash stands for. -/
def letterEscapes : List (Char × Char) :=
  [('a', '\x07'), ('f', '\x0c'), ('t', '\t'), ('n', '\n'), ('r', '\r'), ('v', '\x0b')]

/-- A character by a count of hexadecimal digits. -/
def hexChar (f : Flags) (n : Nat) : Nat → List Char → Except PatternError (Char × List Char)
  | 0, cs => if n.isValidChar then .ok (Char.ofNat n, cs) else .error .malformed
  | count + 1, cs =>
    match f.skip cs with
    | [] => .error .malformed
    | c :: cs =>
      match Text.hexDigit? c with
      | some d => hexChar f (16 * n + d) count cs
      | none => .error .malformed

/-- The part behind a backslash. -/
def escaped (f : Flags) : List Char → Except PatternError (Part × List Char)
  | [] => .error .malformed
  | c :: cs =>
    let byNumber (digits : Nat) : Except PatternError (Part × List Char) := do
      let (d, cs) ← hexChar f 0 digits cs
      return (.char d (digits == 2), cs)
    if standsForItself c then .ok (.char c false, cs)
    else if let some (_, d) := letterEscapes.find? (·.1 == c) then .ok (.char d false, cs)
    else if c == 'x' then byNumber 2
    else if c == 'u' then byNumber 4
    else if c == 'U' then byNumber 8
    else if ['d', 's', 'w'].contains c then .ok (.kind false, cs)
    else if ['D', 'S', 'W'].contains c then .ok (.kind true, cs)
    else if ['A', 'z'].contains c then .ok (.edge, cs)
    else if c == 'b' && cs.head? == some '\x7b' then .error .malformed
    else if ['b', 'B', '<', '>'].contains c then .ok (.boundary, cs)
    else .error .malformed

/-- A part can be matched under some flags. -/
def Part.allowed (f : Flags) : Part → Bool
  | .char c octet => if f.unicode then !f.ignoreCase else !octet || c.toNat < 0x80
  | .kind negated => !f.unicode && !negated
  | .boundary | .edge => true

/-- The part in front, if it is no group, class or operator. -/
def part (f : Flags) : List Char → Except PatternError (Part × List Char)
  | [] => .error .malformed
  | '\\' :: cs => escaped f cs
  | c :: cs => .ok (.char c false, cs)

/-! ## Classes -/

/-- A class of characters that is open: how many members it has since the last operator, how deep
they are nested, and how deep what is left of that operator is. In a fresh class only hyphens were
read. -/
structure OpenClass where
  members : Nat := 0
  deepest : Nat := 0
  left : Option Nat := none
  fresh : Bool := true
deriving DecidableEq, Repr

namespace OpenClass

/-- How deep the members of a class are nested. -/
def depth (c : OpenClass) : Nat :=
  let right := if c.members ≤ 1 then c.deepest else c.deepest + 1
  match c.left with
  | none => right
  | some left => max left right + 1

/-- Adds a member. -/
def add (c : OpenClass) (depth : Nat) : OpenClass :=
  { c with members := c.members + 1, deepest := max c.deepest depth, fresh := false }

/-- Adds a hyphen in front of all other members. -/
def addHyphen (c : OpenClass) : OpenClass := { c.add 0 with fresh := true }

/-- The class behind an operator. -/
def behindOperator (c : OpenClass) : OpenClass := { left := some c.depth, fresh := false }

end OpenClass

/-- The names of classes that need no table. -/
def classNames : List String := [
  "alnum", "alpha", "ascii", "blank", "cntrl", "digit", "graph", "lower", "print", "punct", "space",
  "upper", "word", "xdigit"]

/-- A named class such as `[:alpha:]` behind its bracket: whether all but its members are meant, and
what follows. -/
def namedClass? : List Char → Option (Bool × List Char)
  | ':' :: cs =>
    let (negated, cs) := match cs with
      | '^' :: cs => (true, cs)
      | cs => (false, cs)
    match cs.dropWhile (· != ':') with
    | ':' :: ']' :: rest =>
      if classNames.contains (String.ofList (cs.takeWhile (· != ':'))) then some (negated, rest)
      else none
    | _ => none
  | _ => none

/-- A part can be a member of a class under some flags. -/
def Part.allowedInClass (f : Flags) : Part → Bool
  | .char c _ => f.unicode || c.toNat < 0x80
  | .kind negated => !f.unicode && !negated
  | .boundary | .edge => false

/-- Passes over a member of a class: one part, or a range from a character to another. -/
def classMember (f : Flags) (cs : List Char) : Except PatternError (List Char) := do
  let (p, cs) ← part f cs
  if !p.allowedInClass f then throw .malformed
  match f.skip cs with
  | '-' :: more =>
    let more := f.skip more
    if more.head? == some ']' || more.head? == some '-' then return f.skip cs
    let (q, rest) ← part f more
    match p, q with
    | .char first _, .char last _ =>
      if q.allowedInClass f && first.toNat ≤ last.toNat then return rest else throw .malformed
    | _, _ => throw .malformed
  | cs => return cs

/-- What follows the opening bracket of a class. All but some octets may be no text. -/
def openClass (f : Flags) (cs : List Char) : Except PatternError (List Char) :=
  if f.unicode && f.ignoreCase then .error .malformed
  else match f.skip cs with
    | '^' :: cs => if f.unicode then .ok cs else .error .malformed
    | cs => .ok cs

/-- Reads a class, and the classes open around it, up to its end: how deep it is nested, and what
follows. The first number bounds the steps. -/
def readClass (f : Flags) :
    Nat → OpenClass → List OpenClass → List Char → Except PatternError (Nat × List Char)
  | 0, _, _, _ => .error .malformed
  | steps + 1, c, outer, cs =>
    match f.skip cs with
    | [] => .error .malformed
    | '[' :: cs =>
      match namedClass? cs with
      | some (negated, rest) =>
        if !f.unicode && negated then .error .malformed
        else readClass f steps (c.add 0) outer rest
      | none => do readClass f steps {} (c :: outer) (← openClass f cs)
    | ']' :: cs =>
      if c.fresh && c.members == 0 then readClass f steps (c.add 0) outer cs
      else match outer with
        | [] => .ok (c.depth + 1, cs)
        | o :: outer => readClass f steps (o.add (c.depth + 1)) outer cs
    | '-' :: '-' :: cs =>
      if c.fresh then readClass f steps c.addHyphen outer ('-' :: cs)
      else readClass f steps c.behindOperator outer cs
    | '&' :: '&' :: cs | '~' :: '~' :: cs => readClass f steps c.behindOperator outer cs
    | '-' :: cs =>
      if c.fresh then readClass f steps c.addHyphen outer cs
      else do readClass f steps (c.add 0) outer (← classMember f ('-' :: cs))
    | cs => do readClass f steps (c.add 0) outer (← classMember f cs)

/-! ## Groups -/

/-- A part of a sequence: a change of flags, or something to match with its depth. -/
inductive Item where
  | flags
  | node (depth : Nat)
deriving DecidableEq, Repr

def Item.depth : Item → Nat
  | .flags => 0
  | .node depth => depth

/-- How deep a sequence of parts is nested. -/
def sequenceDepth (items : List Item) : Nat :=
  let deepest := items.foldl (fun d i => max d i.depth) 0
  if items.length ≤ 1 then deepest else deepest + 1

/-- A group that is open: the flags in force behind it, the parts of the alternative that is read,
the last one first, and how deep the alternatives before are nested. -/
structure OpenGroup where
  outerFlags : Flags := {}
  items : List Item := []
  alternatives : List Nat := []
deriving DecidableEq, Repr

namespace OpenGroup

/-- How deep what a group holds is nested. -/
def depth (g : OpenGroup) : Nat :=
  let last := sequenceDepth g.items
  if g.alternatives.isEmpty then last else g.alternatives.foldl max last + 1

/-- Adds a part. -/
def add (g : OpenGroup) (i : Item) : OpenGroup := { g with items := i :: g.items }

/-- Begins a further alternative. -/
def alternative (g : OpenGroup) : OpenGroup :=
  { g with items := [], alternatives := sequenceDepth g.items :: g.alternatives }

/-- Makes the last part one that may be repeated; there must be one to match. -/
def repeated? (g : OpenGroup) : Option OpenGroup :=
  match g.items with
  | .node depth :: items => some { g with items := .node (depth + 1) :: items }
  | _ => none

end OpenGroup

/-- Where a check stands. -/
structure Check where
  flags : Flags := {}
  /-- The innermost group, at first the whole expression, and the groups around it. -/
  group : OpenGroup := {}
  outer : List OpenGroup := []
  /-- The names of groups. -/
  names : List (List Char) := []
  /-- There is the boundary of a word among characters. -/
  boundary : Bool := false
deriving DecidableEq, Repr

namespace Check

/-- Adds a part to the innermost group. -/
def add (k : Check) (i : Item) : Check := { k with group := k.group.add i }

/-- Opens a group in which some flags are in force. -/
def openGroup (k : Check) (flags : Flags) : Check :=
  { k with flags := flags, group := { outerFlags := k.flags }, outer := k.group :: k.outer }

/-- Closes the innermost group. -/
def closeGroup (k : Check) : Except PatternError Check :=
  match k.outer with
  | [] => .error .malformed
  | g :: outer =>
    .ok { k with
      flags := k.group.outerFlags
      group := g.add (.node (k.group.depth + 1))
      outer := outer }

/-- Adds a part that is no group, class or operator. -/
def addPart (k : Check) (p : Part) : Except PatternError Check :=
  if !p.allowed k.flags then .error .malformed
  else .ok { k.add (.node 0) with boundary := k.boundary || (k.flags.unicode && p = .boundary) }

end Check

/-- The name of a group, up to its bracket. -/
def isGroupName : List Char → Bool
  | [] => false
  | c :: cs =>
    (c == '_' || (Text.isAlphanumeric c && !Text.isDigit c)) &&
    cs.all fun c => ['_', '.', '[', ']'].contains c || Text.isAlphanumeric c

/-- Reads flags up to a colon or a bracket, which is left where it is. `met` are the letters read, a
hyphen that turns flags off among them, the last one first. -/
def readFlags (f : Flags) (met : List Char) : List Char → Except PatternError (Flags × List Char)
  | [] => .error .malformed
  | c :: cs =>
    if c == ':' || c == ')' then
      if met.head? == some '-' || (c == ')' && met.isEmpty) then .error .malformed
      else .ok (f, c :: cs)
    else if met.contains c then .error .malformed
    else if c == '-' then readFlags f (c :: met) cs
    else if flagLetters.contains c then readFlags (f.put c (!met.contains '-')) (c :: met) cs
    else .error .malformed

/-- Opens a group with a name. -/
def openNamed (k : Check) (cs : List Char) : Except PatternError (Check × List Char) :=
  let name := cs.takeWhile (· != '>')
  match cs.dropWhile (· != '>') with
  | [] => .error .malformed
  | _ :: rest =>
    if isGroupName name && !k.names.contains name then
      .ok ({ k with names := name :: k.names }.openGroup k.flags, rest)
    else .error .malformed

/-- What follows an opening bracket: a group, or a change of flags. Nothing looks ahead or back. -/
def openBracket (k : Check) (cs : List Char) : Except PatternError (Check × List Char) :=
  match k.flags.skip cs with
  | '?' :: '<' :: '=' :: _ | '?' :: '<' :: '!' :: _ => .error .malformed
  | '?' :: 'P' :: '<' :: cs | '?' :: '<' :: cs => openNamed k cs
  | '?' :: cs =>
    match readFlags k.flags [] cs with
    | .error e => .error e
    | .ok (flags, ':' :: cs) => .ok (k.openGroup flags, cs)
    | .ok (flags, cs) => .ok ({ k with flags := flags }.add .flags, cs.drop 1)
  | cs => .ok (k.openGroup k.flags, cs)

/-! ## Expressions -/

/-- How deep an expression may be nested. -/
def maxDepth : Nat := 250

/-- What is wrong with a whole expression that was read to its end. -/
def Check.problem? (k : Check) : Option PatternError :=
  if !k.outer.isEmpty || maxDepth < k.group.depth then some .malformed
  else if k.boundary then some .wordBoundary
  else none

/-- One step through an expression. -/
def step (k : Check) : List Char → Except PatternError (Check × List Char)
  | [] => .ok (k, [])
  | c :: cs =>
    if c == '(' then openBracket k cs
    else if c == ')' then do return (← k.closeGroup, cs)
    else if c == '|' then .ok ({ k with group := k.group.alternative }, cs)
    else if c == '[' then do
      let (depth, cs) ← readClass k.flags (cs.length + 1) {} [] (← openClass k.flags cs)
      return (k.add (.node depth), cs)
    else if c == '?' || c == '*' || c == '+' then
      match k.group.repeated? with
      | some g => .ok ({ k with group := g }, if cs.head? == some '?' then cs.drop 1 else cs)
      | none => .error .malformed
    else if c == '\x7b' then .error .malformed
    else if c == '.' then
      if k.flags.unicode then .ok (k.add (.node 0), cs) else .error .malformed
    else if c == '^' || c == '$' then .ok (k.add (.node 0), cs)
    else do
      let (p, cs) ← part k.flags (c :: cs)
      return (← k.addPart p, cs)

/-- Goes through an expression; the first number bounds the steps. -/
def checkFrom (k : Check) : Nat → List Char → Except PatternError Check
  | 0, _ => .error .malformed
  | steps + 1, cs =>
    match k.flags.skip cs with
    | [] => .ok k
    | cs =>
      match step k cs with
      | .error e => .error e
      | .ok (k, rest) => checkFrom k steps rest

/-- What is wrong with a value that is asked for, if anything. -/
def problem? (value : List Char) : Option PatternError :=
  if isNumber value then none
  else match checkFrom {} (value.length + 1) value with
    | .error e => some e
    | .ok k => k.problem?

end Pattern

end SelfTrace.Log
