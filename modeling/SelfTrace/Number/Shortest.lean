import SelfTrace.Number.Binary64
import SelfTrace.Text.Digits

/-!
# The shortest decimal of a binary number

The fewest decimal digits that read back as a given number: for one, two, … seventeen digits, the
two neighbours of the number on that decimal grid are tried, and the first grid with a neighbour
inside the interval of reals that round to the number wins; of two, the nearer.

`Binary64.text` writes those digits: positionally while the number's decimal exponent lies between
-5 and 15, with at least one decimal, and else with an exponent and its sign.
-/

namespace SelfTrace.Number.Binary64

/-! ## Digits -/

/-- The interval of reals that round to a number, in quarters of its last place, and whether its
ends belong to it. Below a power of two the next number is only half a place away. -/
def interval (x : Binary64) : Nat × Nat × Bool :=
  let below := if x.mantissa == Nat.pow 2 52 && minExponent < x.exponent then 1 else 2
  (4 * x.mantissa - below, 4 * x.mantissa + 2, x.mantissa % 2 == 0)

/-- The decimal exponent of a positive number: `p` with `10 ^ p ≤ x < 10 ^ (p + 1)`. -/
def decimalExponent (x : Binary64) : Int :=
  let (n, d) := x.quotient
  ((Text.decimal (n * Nat.pow 10 400 / d)).length : Int) - 401

/-- Compares `c * 10 ^ e` with `quarters / 4` places of a number. -/
def compareWith (x : Binary64) (c : Nat) (e : Int) (quarters : Nat) : Ordering :=
  let (n, d) := (⟨quarters, x.exponent⟩ : Binary64).quotient
  let (n, d) := (n, 4 * d)
  if e < 0 then compare (c * d) (n * Nat.pow 10 e.natAbs)
  else compare (c * Nat.pow 10 e.natAbs * d) n

/-- `c * 10 ^ e` rounds to the number. -/
def readsBack (x : Binary64) (c : Nat) (e : Int) : Bool :=
  let (low, high, ends) := x.interval
  let atLow := x.compareWith c e low
  let atHigh := x.compareWith c e high
  (atLow == .gt || (ends && atLow == .eq)) && (atHigh == .lt || (ends && atHigh == .eq))

/-- The best neighbour of the number on the grid of `10 ^ e`, if one reads back. -/
def onGrid? (x : Binary64) (e : Int) : Option Nat :=
  let (n, d) := x.quotient
  let (n, d) := if e < 0 then (n * Nat.pow 10 e.natAbs, d)
    else (n, d * Nat.pow 10 e.natAbs)
  let c := n / d
  let near := roundHalfEven n d
  let far := if near == c then c + 1 else c
  if x.readsBack near e then some near
  else if x.readsBack far e then some far
  else none

/-- The first grid that holds a decimal reading back, from a number of digits on. -/
def firstGrid (x : Binary64) (p : Int) (digits : Nat) : Nat → Nat × Int
  | 0 => let e := p - 16; ((x.onGrid? e).getD 0, e)
  | fuel + 1 =>
    let e := p - digits + 1
    match x.onGrid? e with
    | some c => (c, e)
    | none => firstGrid x p (digits + 1) fuel

/-- The shortest digits of a positive number and the power of ten of the last of them. -/
def shortest (x : Binary64) : List Char × Int :=
  let (c, e) := x.firstGrid x.decimalExponent 1 17
  let ds := Text.decimal c
  let kept := (ds.reverse.dropWhile (· == '0')).reverse
  (kept, e + ((ds.length - kept.length : Nat) : Int))

/-! ## Text -/

/-- Digits with an exponent: one digit, the others after a point, the exponent with its sign. -/
def scientific (ds : List Char) (exponent : Int) : List Char :=
  let sign := if exponent < 0 then '-' else '+'
  let tail := match ds with
    | [] => []
    | [d] => [d]
    | d :: rest => d :: '.' :: rest
  tail ++ 'e' :: sign :: Text.decimal exponent.natAbs

/-- Digits at their place, with at least one decimal. -/
def positional (ds : List Char) (exponent : Int) : List Char :=
  if exponent < 0 then
    '0' :: '.' :: List.replicate (exponent.natAbs - 1) '0' ++ ds
  else
    let whole := exponent.toNat + 1
    if ds.length ≤ whole then
      ds ++ List.replicate (whole - ds.length) '0' ++ ['.', '0']
    else ds.take whole ++ '.' :: ds.drop whole

/-- The text of a number with its sign. -/
def text (negative : Bool) (x : Binary64) : String :=
  let body :=
    if x.isZero then ['0', '.', '0']
    else
      let (ds, last) := x.shortest
      let exponent := last + ds.length - 1
      if -5 ≤ exponent && exponent ≤ 15 then positional ds exponent else scientific ds exponent
  String.ofList (if negative then '-' :: body else body)

end SelfTrace.Number.Binary64
