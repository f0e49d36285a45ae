import SelfTrace.InputError
import SelfTrace.Json.Basic
import SelfTrace.Json.Decoder
import SelfTrace.Text.Blank

/-!
# Process ids

The number by which the operating system knows a process, and its text. Main statement:
`parse?_eq_some_iff` — which texts are process ids.
-/

namespace SelfTrace

/-- The id of a process. -/
structure ProcessId where
  raw : UInt32
deriving DecidableEq, Repr

namespace ProcessId

/-- The largest id. -/
def maxRaw : Nat := 4294967295

/-- Zero is the id of no process. -/
def ofRaw? (raw : UInt32) : Option ProcessId := if raw = 0 then none else some ⟨raw⟩

/-- The id with a number, if it is one. -/
def ofNat? (n : Nat) : Option ProcessId :=
  if 0 < n && n ≤ maxRaw then some ⟨UInt32.ofNat n⟩ else none

/-- The id written by digits alone, blanks around them apart. -/
def parseChars? (cs : List Char) : Option ProcessId := (Text.decimal? (Text.trim cs)).bind ofNat?

/-- The id that a text writes, if it writes one. -/
def parse? (s : String) : Option ProcessId := parseChars? s.toList

/-- The id that a text writes; a text that writes none is reported as it is. -/
def parse (s : String) : Except InputError ProcessId :=
  match parse? s with
  | some p => .ok p
  | none => .error (.invalidPid s)

/-- The digits of an id. -/
def chars (p : ProcessId) : List Char := Text.decimal p.raw.toNat

/-- The text of an id. -/
def text (p : ProcessId) : String := String.ofList p.chars

/-- The text of an id that says what it is. -/
def described (p : ProcessId) : String := "ProcessId(" ++ p.text ++ ")"

/-- The smaller number first. -/
def le (p q : ProcessId) : Bool := p.raw ≤ q.raw

/-- Drops each id that equals the one before it. -/
def dropRepeats : List ProcessId → List ProcessId
  | p :: q :: rest => if p = q then dropRepeats (q :: rest) else p :: dropRepeats (q :: rest)
  | ps => ps

/-- The ids in ascending order, each once. -/
def sorted (ps : List ProcessId) : List ProcessId := dropRepeats (ps.mergeSort le)

/-- An id as a JSON document. -/
def toJson (p : ProcessId) : Json := .number p.raw.toNat

/-- An id from JSON text: any number of 32 bits. -/
def reader : Json.Reader ProcessId := do
  return ⟨UInt32.ofNat (← Json.readUnsigned maxRaw "u32")⟩

/-! ## Which texts are ids -/

theorem parse?_eq_some_iff (s : String) (p : ProcessId) :
    parse? s = some p ↔
      ∃ n, Text.decimal? (Text.trim s.toList) = some n ∧ ofNat? n = some p := by
  simp [parse?, parseChars?, Option.bind_eq_some_iff]

end ProcessId

end SelfTrace
