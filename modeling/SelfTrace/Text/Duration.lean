import SelfTrace.Text.Digits

/-!
# Lengths of time

A length of time in whole nanoseconds and its short text: the largest unit of `s`, `ms`, `µs`,
`ns` that it reaches, with as many decimals as it needs and no trailing zeros.
-/

namespace SelfTrace

/-- A length of time. -/
structure Duration where
  nanos : Nat
deriving DecidableEq, Repr

namespace Duration

def ofMillis (ms : Nat) : Duration := ⟨ms * 1000000⟩

/-- Whole milliseconds, the rest dropped. -/
def toMillis (d : Duration) : Nat := d.nanos / 1000000

/-- Decimals of `part` out of `10 ^ width`, without the zeros at the end. -/
def decimals (width part : Nat) : List Char :=
  let ds := Text.decimal part
  let padded := List.replicate (width - ds.length) '0' ++ ds
  (padded.reverse.dropWhile (· == '0')).reverse

/-- A number of units of `10 ^ width` nanoseconds with its fraction. -/
def inUnits (width nanos : Nat) (unit : String) : String :=
  let whole := Text.decimalText (nanos / Nat.pow 10 width)
  let rest := nanos % Nat.pow 10 width
  if rest == 0 then whole ++ unit
  else whole ++ "." ++ String.ofList (decimals width rest) ++ unit

/-- The short text of a length of time. -/
def text (d : Duration) : String :=
  if d.nanos ≥ 1000000000 then inUnits 9 d.nanos "s"
  else if d.nanos ≥ 1000000 then inUnits 6 d.nanos "ms"
  else if d.nanos ≥ 1000 then inUnits 3 d.nanos "µs"
  else Text.decimalText d.nanos ++ "ns"

end Duration

end SelfTrace
