/-!
# Binary numbers of 64 bits

Non-negative finite numbers of the binary64 format as `mantissa * 2 ^ exponent`, and rounding of
an exact quotient to the nearest of them, a tie to the even mantissa. Products and quotients are
rounded once, from their exact value.
-/

namespace SelfTrace.Number

/-- A non-negative finite number: `mantissa * 2 ^ exponent`, the mantissa below `2 ^ 53`. -/
structure Binary64 where
  mantissa : Nat
  exponent : Int
deriving DecidableEq, Repr

namespace Binary64

/-- The smallest exponent of the format. -/
def minExponent : Int := -1074

/-- The largest exponent of a mantissa of 53 bits. -/
def maxExponent : Int := 971

def zero : Binary64 := ⟨0, minExponent⟩

def isZero (x : Binary64) : Bool := x.mantissa == 0

/-- The quotient `num / den` over `2 ^ e` as a pair of naturals. -/
def scaled (num den : Nat) (e : Int) : Nat × Nat :=
  if e < 0 then (num * Nat.pow 2 e.natAbs, den) else (num, den * Nat.pow 2 e.natAbs)

/-- The quotient of two naturals to the nearest whole number, a tie to the even one. -/
def roundHalfEven (num den : Nat) : Nat :=
  let q := num / den
  let r := num % den
  if 2 * r < den then q
  else if den < 2 * r then q + 1
  else if q % 2 == 0 then q else q + 1

/-- The number nearest to `num / den`; `none` when it is too large for the format. -/
def round? (num den : Nat) : Option Binary64 :=
  if num == 0 then some zero
  else
    let guess : Int := (num.log2 : Int) - (den.log2 : Int) - 53
    let (n, d) := scaled num den guess
    let e := max (if Nat.pow 2 53 ≤ n / d then guess + 1 else guess) minExponent
    let (n, d) := scaled num den e
    let m := roundHalfEven n d
    let (m, e) := if m == Nat.pow 2 53 then (Nat.pow 2 52, e + 1) else (m, e)
    if maxExponent < e then none else some ⟨m, e⟩

/-- The exact value as a quotient of naturals. -/
def quotient (x : Binary64) : Nat × Nat :=
  if x.exponent < 0 then (x.mantissa, Nat.pow 2 x.exponent.natAbs)
  else (x.mantissa * Nat.pow 2 x.exponent.natAbs, 1)

/-- The rounded product; `none` on overflow. -/
def mul? (x y : Binary64) : Option Binary64 :=
  let (a, b) := x.quotient
  let (c, d) := y.quotient
  round? (a * c) (b * d)

/-- The rounded quotient by a number other than zero; `none` on overflow. -/
def div? (x y : Binary64) : Option Binary64 :=
  let (a, b) := x.quotient
  let (c, d) := y.quotient
  round? (a * d) (b * c)

/-- The rounded value of a natural; `none` when too large. -/
def ofNat? (n : Nat) : Option Binary64 := round? n 1

end Binary64

end SelfTrace.Number
