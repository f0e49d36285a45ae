import SelfTrace.Text.Digits

/-!
# Times in the log

A moment is a number of nanoseconds since the start of 1970, in universal time. It is written as a
date and a time of day with an offset from universal time.
-/

namespace SelfTrace.Log

/-! ## Calendar -/

/-- A day of the calendar. -/
structure Date where
  year : Nat
  month : Nat
  day : Nat
deriving DecidableEq, Repr

/-- The day with a number, counted from the start of 1970. Years are counted from March, so that the
day that leap years add comes last. -/
def Date.ofDays (days : Nat) : Date :=
  let z := days + 719468
  let era := z / 146097
  let doe := z % 146097
  let yoe := (doe - doe / 1460 + doe / 36524 - doe / 146096) / 365
  let doy := doe - (365 * yoe + yoe / 4 - yoe / 100)
  let mp := (5 * doy + 2) / 153
  let month := if mp < 10 then mp + 3 else mp - 9
  let year := yoe + era * 400 + (if month ≤ 2 then 1 else 0)
  ⟨year, month, doy - (153 * mp + 2) / 5 + 1⟩

/-- The decimals of a second, without zeros at the end. -/
def fraction (nanos : Nat) : String :=
  let ds := (Text.paddedText 9 nanos).toList
  let kept := (ds.reverse.dropWhile (· == '0')).reverse
  if kept.isEmpty then "" else "." ++ String.ofList kept

/-- The date and time of day of a moment. -/
def dateTime (nanos : Nat) : String :=
  let seconds := nanos / 1000000000
  let d := Date.ofDays (seconds / 86400)
  let s := seconds % 86400
  let two := Text.paddedText 2
  Text.paddedText 4 d.year ++ "-" ++ two d.month ++ "-" ++ two d.day ++ "T" ++
    two (s / 3600) ++ ":" ++ two (s / 60 % 60) ++ ":" ++ two (s % 60) ++
    fraction (nanos % 1000000000)

/-! ## Offsets -/

/-- An offset in hours and minutes; universal time is `Z`. -/
def offsetText (seconds : Int) : String :=
  if seconds == 0 then "Z"
  else
    let n := seconds.natAbs
    (if seconds < 0 then "-" else "+") ++ Text.paddedText 2 (n / 3600) ++ ":" ++
      Text.paddedText 2 (n / 60 % 60)

/-- A moment with an offset in seconds; an offset of a day or more, or one that is not whole
minutes, cannot be written. -/
def stamp (nanos : Nat) (offset : Int) : Option String :=
  if offset % 60 != 0 || 24 ≤ offset.natAbs / 3600 then none
  else
    let here := (nanos : Int) + offset * 1000000000
    some (dateTime here.toNat ++ offsetText offset)

end SelfTrace.Log
