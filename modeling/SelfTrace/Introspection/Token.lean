import SelfTrace.Scene

/-!
# Fresh tokens

A token is the time of its making and its number in the sequence of all tokens, both in
hexadecimal. The number alone makes tokens differ; the clock may stand still or go backwards.
-/

namespace SelfTrace

namespace Token

/-- The characters of the token with a number, made at a time. -/
def chars (nanos : Nat) (seq : UInt64) : List Char := Text.hex nanos ++ '-' :: Text.hex seq.toNat

/-- The text of a token. -/
def text (nanos : Nat) (seq : UInt64) : String := String.ofList (chars nanos seq)

end Token

namespace TokenSource

/-- The next token, and the source after it. -/
def next (t : TokenSource) : String × TokenSource :=
  (Token.text (t.readings.headD 0) t.issued, ⟨t.issued + 1, t.readings.tail⟩)

end TokenSource

/-- Issues a fresh token. -/
def Act.freshToken {σ : Type} : Act σ String := fun s =>
  let (token, tokens) := s.tokens.next
  (token, { s with tokens := tokens })

end SelfTrace
