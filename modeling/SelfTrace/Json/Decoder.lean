import SelfTrace.Json.Reader

/-!
# Values from JSON text

Readers for the kinds of value that are asked for: truth values, numbers within bounds, strings,
optional values, records and the names of states. A record is written as an object, in which
members that it does not know are passed over and those that are missing keep their default, or
as a list of its fields in order.
-/

namespace SelfTrace.Json

variable {α σ : Type}

/-! ## Single values -/

def readBool : Reader Bool := do
  match ← token with
  | 't' => advance; word ['r', 'u', 'e']; return true
  | 'f' => advance; word ['a', 'l', 's', 'e']; return false
  | _ => refuse "a boolean"

/-- A string; `expected` names it in messages. -/
def readText (expected : String) : Reader String := do
  match ← token with
  | '"' => advance; stringBody
  | _ => refuse expected

def readString : Reader String := readText "a string"

/-- A string that another reader understands, with its own words where it does not. -/
def readParsed (parse : String → Except String α) : Reader α := do
  match parse (← readString) with
  | .ok a => return a
  | .error message => throw (.unfit message)

/-- A whole number up to a bound. -/
def readUnsigned (bound : Nat) (expected : String) : Reader Nat := do
  let c ← token
  if c == '-' || Text.isDigit c then
    match ← numeral with
    | .unsigned n =>
      if n.toNat ≤ bound then return n.toNat
      throw (.unfit ("invalid value: " ++ (Numeral.unsigned n).described ++
        ", expected " ++ expected))
    | .negative n =>
      throw (.unfit ("invalid value: " ++ (Numeral.negative n).described ++
        ", expected " ++ expected))
    | .real minus x =>
      throw (.unfit ("invalid type: " ++ (Numeral.real minus x).described ++
        ", expected " ++ expected))
  else refuse expected

/-- A value or `null`. -/
def readOption (read : Reader α) : Reader (Option α) := do
  match ← token? with
  | some 'n' => advance; word ['u', 'l', 'l']; return none
  | _ => return some (← read)

/-! ## Records -/

/-- A field of a record: its name, and a reader that puts it into the record. -/
structure Field (σ : Type) where
  name : String
  read : σ → Reader σ

/-- The colon behind a key. -/
def colon : Reader Unit := do
  match ← token with
  | ':' => advance
  | _ => throw .malformed

/-- The members of an object from the next one on, up to its end. `seen` holds the names met. -/
def readMembers (fields : List (Field σ)) : Nat → List String → σ → Reader σ
  | 0, _, _ => throw .malformed
  | fuel + 1, seen, record => do
    match ← token with
    | '"' => advance
    | _ => throw .malformed
    let key ← stringBody
    let record ← do
      match fields.find? (·.name == key) with
      | some field =>
        if seen.contains key then throw (.unfit ("duplicate field `" ++ key ++ "`"))
        colon
        field.read record
      | none => colon; skip; pure record
    match ← token with
    | '\x7d' => advance; return record
    | ',' => advance; readMembers fields fuel (key :: seen) record
    | _ => throw .malformed

/-- An object behind its opening brace. -/
def readObject (fields : List (Field σ)) (record : σ) : Reader σ := do
  match ← token with
  | '\x7d' => advance; return record
  | _ => readMembers fields ((← get).length + 1) [] record

/-- The items of a list, from the second on. -/
def readItems : List (Field σ) → σ → Reader σ
  | [], record => return record
  | field :: fields, record => do
    match ← token with
    | ']' => return record
    | ',' =>
      advance
      if (← token) == ']' then throw .malformed
      readItems fields (← field.read record)
    | _ => throw .malformed

/-- A list behind its opening bracket: the fields in order, the last ones perhaps missing. -/
def readList (fields : List (Field σ)) (record : σ) : Reader σ := do
  let record ← do
    match fields, ← token with
    | _, ']' => pure record
    | [], _ => pure record
    | field :: fields, _ => readItems fields (← field.read record)
  match ← token with
  | ']' => advance; return record
  | _ => throw .malformed

/-- A record, as an object or as a list. -/
def readRecord (expected : String) (fields : List (Field σ)) (record : σ) : Reader σ := do
  match ← token with
  | '[' => advance; readList fields record
  | '\x7b' => advance; readObject fields record
  | _ => refuse expected

/-! ## Named states -/

/-- One of a list of names, each for a value. -/
def readName (names : List (String × α)) : Reader α := do
  let key ← readText "variant identifier"
  match names.find? (·.1 == key) with
  | some (_, a) => return a
  | none =>
    let known := ", ".intercalate (names.map fun n => "`" ++ n.1 ++ "`")
    throw (.unfit ("unknown variant `" ++ key ++ "`, expected one of " ++ known))

/-- The value that says nothing. -/
def readNothing : Reader Unit := do
  match ← token with
  | 'n' => advance; word ['u', 'l', 'l']
  | _ => refuse "unit"

/-- A named state: its name as a string, or as the only member of an object, with `null`. -/
def readState (names : List (String × α)) : Reader α := do
  match ← token with
  | '"' => readName names
  | '\x7b' =>
    advance
    let a ← readName names
    colon
    readNothing
    match ← token with
    | '\x7d' => advance; return a
    | _ => throw .malformed
  | _ => throw .malformed

/-! ## Documents -/

/-- The value of a whole text: nothing but blanks may follow it. -/
def readDocument (read : Reader α) (text : String) : Except Problem α :=
  match read text.toList with
  | .error e => .error e
  | .ok (a, rest) => if (rest.dropWhile isSpace).isEmpty then .ok a else .error .malformed

end SelfTrace.Json
