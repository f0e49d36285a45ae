/-!
# Numbers as digits

Decimal and hexadecimal text of natural numbers, and reading digits back. Main statement:
`value_decimal` — the decimal text of a number reads back as that number.

Only the ten ASCII digits count as digits; no sign, point or separator is read.
-/

namespace SelfTrace.Text

/-! ## Writing -/

/-- The decimal digits of a number, without leading zeros; `0` is one zero. -/
def decimal (n : Nat) : List Char := Nat.toDigits 10 n

/-- The hexadecimal digits of a number in lower case, without leading zeros. -/
def hex (n : Nat) : List Char := Nat.toDigits 16 n

/-- The decimal text of a number. -/
def decimalText (n : Nat) : String := String.ofList (decimal n)

/-- The hexadecimal text of a number. -/
def hexText (n : Nat) : String := String.ofList (hex n)

/-- The decimal text of an integer, a negative one behind `-`. -/
def signedText (n : Int) : String :=
  if n < 0 then "-" ++ decimalText n.natAbs else decimalText n.natAbs

/-- A number in decimal, filled up with zeros in front to a width. -/
def paddedText (width n : Nat) : String :=
  let ds := decimal n
  String.ofList (List.replicate (width - ds.length) '0' ++ ds)

/-! ## Reading -/

/-- One ASCII digit. -/
def isDigit (c : Char) : Bool := c.isDigit

/-- The number that decimal digits write. -/
def value (cs : List Char) : Nat := Nat.ofDigitChars 10 cs 0

/-- The number written by a non-empty text of digits alone, any number of leading zeros included. -/
def decimal? (cs : List Char) : Option Nat :=
  if cs.isEmpty || !cs.all isDigit then none else some (value cs)

theorem value_decimal (n : Nat) : value (decimal n) = n :=
  Nat.ofDigitChars_toDigits (by decide) (by decide)

theorem isDigit_of_mem_decimal {n : Nat} {c : Char} (h : c ∈ decimal n) : isDigit c = true :=
  Nat.isDigit_of_mem_toDigits (by decide) (by decide) h

/-- The value of one hexadecimal digit, of either case. -/
def hexDigit? (c : Char) : Option Nat :=
  let n := c.toNat
  if 48 ≤ n && n ≤ 57 then some (n - 48)
  else if 97 ≤ n && n ≤ 102 then some (n - 87)
  else if 65 ≤ n && n ≤ 70 then some (n - 55)
  else none

end SelfTrace.Text
