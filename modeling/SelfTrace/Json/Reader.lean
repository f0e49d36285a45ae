import SelfTrace.Number.Shortest
import SelfTrace.Text.Quoted

/-!
# Reading JSON text

Tokens of JSON text, read from the front of a list of characters. A reader stops at the first
thing that is wrong, and says which of three things it is (`Json.Problem`):

* `incomplete` — the text ends too early;
* `malformed` — no JSON text goes on like this;
* `unfit` — the text is JSON so far, but not the value asked for.

Which of them wins is decided by the position in the text alone, so a value of the wrong kind is
reported even when the text behind it is malformed. Members that nobody asked for are passed over
with `skip`, which looks at their form only.
-/

namespace SelfTrace.Json

variable {α : Type}

/-- Why a text could not be read. -/
inductive Problem where
  | incomplete
  | malformed
  | unfit (message : String)
deriving DecidableEq, Repr

/-- A reader takes a value off the front of the text. -/
abbrev Reader := StateT (List Char) (Except Problem)

/-! ## Characters -/

/-- The blanks between tokens. -/
def isSpace (c : Char) : Bool := c == ' ' || c == '\n' || c == '\t' || c == '\r'

/-- The next character, left where it is. -/
def peek? : Reader (Option Char) := do return (← get).head?

/-- Drops one character. -/
def advance : Reader Unit := modify List.tail

/-- Passes over blanks and looks at what follows. -/
def token? : Reader (Option Char) := do
  modify (·.dropWhile isSpace)
  peek?

/-- Passes over blanks; the text must go on. -/
def token : Reader Char := do
  match ← token? with
  | some c => return c
  | none => throw .incomplete

/-- The next character, which must exist. -/
def next : Reader Char := do
  match ← peek? with
  | some c => advance; return c
  | none => throw .incomplete

/-- The rest of a word whose first letter has been read. -/
def word : List Char → Reader Unit
  | [] => return ()
  | c :: cs => do
    if (← next) == c then word cs else throw .malformed

/-- The digits in front. -/
def digits : Reader (List Char) := do
  let text ← get
  set (text.dropWhile Text.isDigit)
  return text.takeWhile Text.isDigit

/-! ## Strings -/

/-- Four hexadecimal digits. The text must hold four more octets, whatever they are. -/
def fourHex : List Char → Except Problem (Nat × List Char)
  | text =>
    if Text.octetCount (text.take 4) < 4 then .error .incomplete
    else match text.take 4 |>.mapM Text.hexDigit? with
      | some [a, b, c, d] => .ok (((a * 16 + b) * 16 + c) * 16 + d, text.drop 4)
      | _ => .error .malformed

/-- A character given by its number in UTF-16, behind the letter `u`: one unit, or a pair. -/
def unicodeEscape (text : List Char) : Except Problem (Char × List Char) := do
  let (n, text) ← fourHex text
  if 0xDC00 ≤ n && n ≤ 0xDFFF then .error .malformed
  else if n < 0xD800 || 0xDBFF < n then .ok (Char.ofNat n, text)
  else match text with
    | [] => .error .incomplete
    | '\\' :: [] => .error .incomplete
    | '\\' :: 'u' :: text =>
      let (m, text) ← fourHex text
      if m < 0xDC00 || 0xDFFF < m then .error .malformed
      else .ok (Char.ofNat ((n - 0xD800) * 0x400 + (m - 0xDC00) + 0x10000), text)
    | _ => .error .malformed

/-- The character that a letter behind a backslash stands for. -/
def simpleEscape? : Char → Option Char
  | '"' => some '"'
  | '\\' => some '\\'
  | '/' => some '/'
  | 'b' => some '\x08'
  | 'f' => some '\x0c'
  | 'n' => some '\n'
  | 'r' => some '\r'
  | 't' => some '\t'
  | _ => none

/-- The characters of a string up to its closing quote. The first argument bounds the number of
steps; each takes a character at least. -/
def stringTail : Nat → List Char → Except Problem (List Char × List Char)
  | 0, _ => .error .incomplete
  | _ + 1, [] => .error .incomplete
  | fuel + 1, c :: text =>
    if c == '"' then .ok ([], text)
    else if c == '\\' then
      match text with
      | [] => .error .incomplete
      | e :: text =>
        if e == 'u' then do
          let (d, text) ← unicodeEscape text
          let (ds, text) ← stringTail fuel text
          .ok (d :: ds, text)
        else match simpleEscape? e with
          | some d => do
            let (ds, text) ← stringTail fuel text
            .ok (d :: ds, text)
          | none => .error .malformed
    else if c.toNat < 0x20 then .error .malformed
    else do
      let (ds, text) ← stringTail fuel text
      .ok (c :: ds, text)

/-- A string behind its opening quote. -/
def stringBody : Reader String := fun text =>
  (stringTail (text.length + 1) text).map fun (cs, rest) => (String.ofList cs, rest)

/-- Passes over a string behind its opening quote: an escape by number may be any unit. -/
def skipStringTail : Nat → List Char → Except Problem (List Char)
  | 0, _ => .error .incomplete
  | _ + 1, [] => .error .incomplete
  | fuel + 1, c :: text =>
    if c == '"' then .ok text
    else if c == '\\' then
      match text with
      | [] => .error .incomplete
      | e :: text =>
        if e == 'u' then do
          let (_, text) ← fourHex text
          skipStringTail fuel text
        else if (simpleEscape? e).isSome then skipStringTail fuel text
        else .error .malformed
    else if c.toNat < 0x20 then .error .malformed
    else skipStringTail fuel text

/-! ## Numbers -/

/-- A number as it was read: whole numbers of 64 bits, all others in binary64. -/
inductive Numeral where
  | unsigned (n : UInt64)
  | negative (n : Nat)
  | real (minus : Bool) (x : Number.Binary64)
deriving Repr

/-- `x * 10 ^ exponent`, rounded as one product or quotient by a power of ten; far below the range
the division is done in steps of `10 ^ 308`. `none` when the result is too large. The first number
bounds the steps. -/
def timesPowerOfTen? (x : Number.Binary64) : Nat → Int → Option Number.Binary64
  | 0, _ => some .zero
  | fuel + 1, exponent =>
    if exponent.natAbs ≤ 308 then do
      let pow ← Number.Binary64.ofNat? (Nat.pow 10 exponent.natAbs)
      if 0 ≤ exponent then x.mul? pow else x.div? pow
    else if x.isZero then some x
    else if 0 ≤ exponent then none
    else do
      let pow ← Number.Binary64.ofNat? (Nat.pow 10 308)
      timesPowerOfTen? (← x.div? pow) fuel (exponent + 308)

/-- The number `significand * 10 ^ exponent`. -/
def real (minus : Bool) (significand : Nat) (exponent : Int) : Reader Numeral := do
  let x? := do
    let x ← Number.Binary64.ofNat? significand
    timesPowerOfTen? x (exponent.natAbs / 308 + 2) exponent
  match x? with
  | some x => return .real minus x
  | none => throw .malformed

/-- The largest whole number of 64 bits. -/
def maxUnsigned : Nat := 18446744073709551615

/-- Takes digits into a significand while it fits 64 bits: the significand, how many digits were
taken, and those left over. -/
def absorb (significand : Nat) : List Char → Nat × Nat × List Char
  | [] => (significand, 0, [])
  | c :: cs =>
    let grown := significand * 10 + (c.toNat - 48)
    if maxUnsigned < grown then (significand, 0, c :: cs)
    else
      let (s, n, rest) := absorb grown cs
      (s, n + 1, rest)

/-- The exponent behind its letter. -/
def exponentPart (minus : Bool) (significand : Nat) (start : Int) : Reader Numeral := do
  advance
  let down ← do
    match ← peek? with
    | some '+' => advance; pure false
    | some '-' => advance; pure true
    | _ => pure false
  match ← peek? with
  | none => throw .incomplete
  | some c => if !Text.isDigit c then throw .malformed
  let ds ← digits
  if 0x7FFFFFFF < Text.value ds then
    if significand != 0 && !down then throw .malformed
    return .real minus .zero
  let e : Int := Text.value ds
  real minus significand (if down then start - e else start + e)

/-- The exponent, if there is one, else the number so far. -/
def exponentOrEnd (minus : Bool) (significand : Nat) (exponent : Int) : Reader Numeral := do
  match ← peek? with
  | some 'e' | some 'E' => exponentPart minus significand exponent
  | _ => real minus significand exponent

/-- The decimals behind the point. Those beyond 64 bits of significand are passed over. -/
def decimalPart (minus : Bool) (significand : Nat) (start : Int) : Reader Numeral := do
  advance
  let ds ← digits
  if ds.isEmpty then
    match ← peek? with
    | some _ => throw .malformed
    | none => throw .incomplete
  let (s, taken, _) := absorb significand ds
  exponentOrEnd minus s (start - taken)

/-- A number behind its sign. -/
def numeralBody (minus : Bool) : Reader Numeral := do
  let c ← next
  if !Text.isDigit c then throw .malformed
  if c == '0' then
    match ← peek? with
    | some d => if Text.isDigit d then throw .malformed
    | none => pure ()
  let ds ← if c == '0' then pure [] else digits
  let (s, _, rest) := absorb 0 (c :: ds)
  if rest.isEmpty then
    match ← peek? with
    | some '.' => decimalPart minus s 0
    | some 'e' | some 'E' => exponentPart minus s 0
    | _ =>
      if !minus then return .unsigned (UInt64.ofNat s)
      else if s == 0 || 9223372036854775808 < s then real true s 0
      else return .negative s
  else
    match ← peek? with
    | some '.' => decimalPart minus s rest.length
    | _ => exponentOrEnd minus s rest.length

/-- A number, of which the next character is the first. -/
def numeral : Reader Numeral := do
  match ← peek? with
  | some '-' => advance; numeralBody true
  | _ => numeralBody false

/-- How a number is named in a message. -/
def Numeral.described : Numeral → String
  | .unsigned n => "integer `" ++ Text.decimalText n.toNat ++ "`"
  | .negative n => "integer `-" ++ Text.decimalText n ++ "`"
  | .real minus x => "floating point `" ++ x.text minus ++ "`"

/-! ## Values of the wrong kind -/

/-- Refuses what comes next, naming it and what was `expected`. A list or an object is named
without being read. -/
def refuse (expected : String) : Reader α := do
  let found ← do
    match ← peek? with
    | some 'n' => advance; word ['u', 'l', 'l']; pure "null"
    | some 't' => advance; word ['r', 'u', 'e']; pure "boolean `true`"
    | some 'f' => advance; word ['a', 'l', 's', 'e']; pure "boolean `false`"
    | some '"' => advance; pure ("string " ++ Text.quoted (← stringBody))
    | some '[' => pure "sequence"
    | some '\x7b' => pure "map"
    | some c =>
      if c == '-' || Text.isDigit c then pure (← numeral).described else throw .malformed
    | none => throw .malformed
  throw (.unfit ("invalid type: " ++ found ++ ", expected " ++ expected))

/-! ## Passing over a value -/

/-- What a value stands in. -/
inductive Frame where
  | list
  | object
deriving DecidableEq, Repr

/-- Passes over an exponent behind its letter. -/
def skipExponent : Reader Unit := do
  advance
  match ← peek? with
  | some '+' | some '-' => advance
  | _ => pure ()
  if (← digits).isEmpty then throw .malformed

/-- Passes over a number behind its sign. -/
def skipNumeral : Reader Unit := do
  let ds ← digits
  match ds with
  | [] => throw .malformed
  | '0' :: _ :: _ => throw .malformed
  | _ => pure ()
  if (← peek?) == some '.' then
    advance
    if (← digits).isEmpty then throw .malformed
  match ← peek? with
  | some 'e' | some 'E' => skipExponent
  | _ => pure ()

/-- Passes over a string behind its opening quote. -/
def skipString : Reader Unit := fun text =>
  (skipStringTail (text.length + 1) text).map fun rest => ((), rest)

/-- Passes over a key and its colon, in front of a value of an object. -/
def skipKey : Reader Unit := do
  match ← token? with
  | some '"' => advance
  | some _ => throw .malformed
  | none => throw .incomplete
  skipString
  match ← token? with
  | some ':' => advance
  | some _ => throw .malformed
  | none => throw .incomplete

/-- Passes over a value that is no list or object. -/
def skipScalar : Reader Unit := do
  match ← peek? with
  | some 'n' => advance; word ['u', 'l', 'l']
  | some 't' => advance; word ['r', 'u', 'e']
  | some 'f' => advance; word ['a', 'l', 's', 'e']
  | some '-' => advance; skipNumeral
  | some '"' => advance; skipString
  | some c => if Text.isDigit c then skipNumeral else throw .malformed
  | none => throw .incomplete

mutual

/-- Passes over a value inside `frames`, and over all that closes them. -/
def skipValue : Nat → List Frame → Reader Unit
  | 0, _ => throw .malformed
  | fuel + 1, frames => do
    match ← token with
    | '[' => advance; skipRest fuel false (.list :: frames)
    | '\x7b' => advance; skipRest fuel false (.object :: frames)
    | _ => skipScalar; skipRest fuel true frames

/-- Goes on behind a value (`full`) or behind the opening of the innermost frame. -/
def skipRest : Nat → Bool → List Frame → Reader Unit
  | _, _, [] => return ()
  | 0, _, _ => throw .malformed
  | fuel + 1, full, frame :: outer => do
    let c ← token
    if full && c == ',' then
      advance
      if frame = .object then skipKey
      skipValue fuel (frame :: outer)
    else if (c == ']' && frame = .list) || (c == '\x7d' && frame = .object) then
      advance
      skipRest fuel true outer
    else if full then throw .malformed
    else
      if frame = .object then skipKey
      skipValue fuel (frame :: outer)

end

/-- Passes over one value. -/
def skip : Reader Unit := do
  let text ← get
  skipValue (2 * text.length + 2) []

end SelfTrace.Json
