import SelfTrace.Text.Digits

/-!
# UTF-8

Octets as text. `scan` cuts a sequence of octets into characters and pieces that are none, each
piece as long as it could still have become a character. Strict reading (`decode?`) and forgiving
reading (`decodeLossy`) are both views of it.
-/

namespace SelfTrace

/-- A sequence of octets: the content of a file, a path, an argument. -/
abbrev Bytes := List UInt8

namespace Text

/-! ## Writing -/

/-- The octets of a text. -/
def encode (cs : List Char) : Bytes := cs.flatMap String.utf8EncodeChar

/-- The octets of a string. -/
def octets (s : String) : Bytes := encode s.toList

/-! ## Reading -/

/-- A character begun: its octets so far, how many are still owed, the bounds of the next one
and the bits collected. -/
structure Begun where
  read : Bytes
  owed : Nat
  low : UInt8
  high : UInt8
  bits : Nat
deriving Repr

/-- A part of an octet sequence: a character, or octets that are none. -/
inductive Piece where
  | char (c : Char)
  | junk (bytes : Bytes)
deriving Repr

/-- What the first octet of a character says; `none` when no character starts with it. -/
def begin? (b : UInt8) : Option (Char ⊕ Begun) :=
  if b < 0x80 then some (.inl (Char.ofNat b.toNat))
  else if b < 0xC2 then none
  else if b < 0xE0 then some (.inr ⟨[b], 1, 0x80, 0xBF, b.toNat - 0xC0⟩)
  else if b = 0xE0 then some (.inr ⟨[b], 2, 0xA0, 0xBF, 0⟩)
  else if b = 0xED then some (.inr ⟨[b], 2, 0x80, 0x9F, 0xD⟩)
  else if b < 0xF0 then some (.inr ⟨[b], 2, 0x80, 0xBF, b.toNat - 0xE0⟩)
  else if b = 0xF0 then some (.inr ⟨[b], 3, 0x90, 0xBF, 0⟩)
  else if b < 0xF4 then some (.inr ⟨[b], 3, 0x80, 0xBF, b.toNat - 0xF0⟩)
  else if b = 0xF4 then some (.inr ⟨[b], 3, 0x80, 0x8F, 4⟩)
  else none

/-- The next octet of a character begun; `none` when it does not continue it. -/
def continue? (p : Begun) (b : UInt8) : Option (Char ⊕ Begun) :=
  if p.low ≤ b && b ≤ p.high then
    let bits := p.bits * 64 + (b.toNat - 0x80)
    if p.owed ≤ 1 then some (.inl (Char.ofNat bits))
    else some (.inr ⟨p.read ++ [b], p.owed - 1, 0x80, 0xBF, bits⟩)
  else none

/-- The pieces of an octet sequence, after the octets of a character begun. An octet that does
not continue a character ends it as junk and is looked at afresh. -/
def scanFrom : Option Begun → Bytes → List Piece
  | none, [] => []
  | some p, [] => [.junk p.read]
  | none, b :: bs =>
    match begin? b with
    | none => .junk [b] :: scanFrom none bs
    | some (.inl c) => .char c :: scanFrom none bs
    | some (.inr p) => scanFrom (some p) bs
  | some p, b :: bs =>
    match continue? p b with
    | some (.inl c) => .char c :: scanFrom none bs
    | some (.inr q) => scanFrom (some q) bs
    | none =>
      .junk p.read ::
        match begin? b with
        | none => .junk [b] :: scanFrom none bs
        | some (.inl c) => .char c :: scanFrom none bs
        | some (.inr q) => scanFrom (some q) bs

/-- The pieces of an octet sequence. -/
def scan (bs : Bytes) : List Piece := scanFrom none bs

/-- The character of a piece, if it is one. -/
def Piece.char? : Piece → Option Char
  | .char c => some c
  | .junk _ => none

/-- The text of an octet sequence, when all of it is text. -/
def decode? (bs : Bytes) : Option (List Char) := (scan bs).mapM Piece.char?

/-- The text of an octet sequence, with U+FFFD for each piece that is none. -/
def decodeLossy (bs : Bytes) : List Char := (scan bs).map fun p => p.char?.getD '\uFFFD'

/-- `decode?` as a string. -/
def text? (bs : Bytes) : Option String := (decode? bs).map String.ofList

/-- `decodeLossy` as a string. -/
def lossyText (bs : Bytes) : String := String.ofList (decodeLossy bs)

/-- The number of octets of a text. -/
def octetCount (cs : List Char) : Nat := (cs.map fun c => c.utf8Size).foldl (· + ·) 0

/-- Two hexadecimal digits per octet, in upper case. -/
def upperHexOctet (b : UInt8) : List Char :=
  let digit (n : Nat) : Char := if n < 10 then Char.ofNat (48 + n) else Char.ofNat (55 + n)
  [digit (b.toNat / 16), digit (b.toNat % 16)]

end Text

end SelfTrace
