import SelfTrace.Log.Timestamp

/-!
# Local time

The offset of local time from universal time, as the text of a zone states it: a name and an offset
such as `XXX-5:30`, perhaps followed by the name and offset of summer time and by the two days of
the year on which the clocks change, such as `AAA3BBB,M3.2.0,M11.1.0/2`. What has to be added to
the local time is written, so `-5:30` is five hours and a half ahead.

A text is read as far as it goes. What cannot be read keeps the value that it has in a zone about
which nothing is known: no offset, and changes at the start of the year.
-/

namespace SelfTrace.Log

/-! ## Days of the year -/

/-- A day of the year. -/
inductive YearDay where
  /-- Counted from zero. -/
  | counted (n : Nat)
  /-- Counted from one, a leap day left out. -/
  | withoutLeapDay (n : Nat)
  /-- The given weekday, Sunday being zero, of a week of a month; the fifth week is the last. -/
  | weekday (month week day : Nat)
deriving DecidableEq, Repr

def isLeapYear (year : Nat) : Bool := year % 4 == 0 && (year % 100 != 0 || year % 400 == 0)

/-- How many days from the start of 1970 a year begins; no year before that is asked for. -/
def daysBeforeYear (year : Nat) : Nat :=
  (year - 1970) * 365 + ((year - 1) / 4 - 492) - ((year - 1) / 100 - 19) + ((year - 1) / 400 - 4)

/-- The lengths of the months. -/
def monthLengths (year : Nat) : List Nat :=
  [31, if isLeapYear year then 29 else 28, 31, 30, 31, 30, 31, 31, 30, 31, 30, 31]

/-- The number of a day, counted from the start of 1970. The start of 1970 was a Thursday. -/
def YearDay.number (year : Nat) : YearDay → Int
  | .counted n => daysBeforeYear year + n
  | .withoutLeapDay n =>
    daysBeforeYear year + n - 1 + (if 60 ≤ n && isLeapYear year then 1 else 0)
  | .weekday month week day =>
    let lengths := monthLengths year
    let first := (lengths.take (month - 1)).foldl (· + ·) (daysBeforeYear year)
    let firstDay := (first + 4) % 7
    let offset := if day < firstDay then day + 7 - firstDay else day - firstDay
    let last := ((lengths[month - 1]?).getD 31 - 1 - offset) / 7
    first + offset + 7 * min (week - 1) last

/-! ## Zones -/

/-- A change of the clocks: a day, and the seconds from its start, by the clock that is changed. -/
structure ClockChange where
  day : YearDay := .counted 0
  seconds : Int := 0
deriving DecidableEq, Repr

/-- The local time of a zone. Offsets are seconds ahead of universal time. -/
structure LocalTime where
  standard : Int := 0
  summer : Int := 0
  starts : ClockChange := {}
  ends : ClockChange := {}
deriving DecidableEq, Repr

/-- When a change happens in a year, in seconds since the start of 1970, on a clock with an
offset. -/
def ClockChange.moment (c : ClockChange) (year : Nat) (offset : Int) : Int :=
  c.day.number year * 86400 - offset + c.seconds

namespace LocalTime

/-- A zone without summer time. -/
def fixed (offset : Int) : LocalTime := { standard := offset, summer := offset }

/-- Whether it is summer time, in seconds since the start of 1970. A summer that starts later than
it ends goes on over the turn of the year. -/
def isSummer (z : LocalTime) (seconds : Nat) : Bool :=
  let year := (Date.ofDays (seconds / 86400)).year
  let starts := z.starts.moment year z.standard
  let ends := z.ends.moment year z.summer
  if ends < starts then seconds < ends || starts ≤ seconds
  else starts ≤ seconds && seconds < ends

/-- The offset at a time. -/
def offsetAt (z : LocalTime) (seconds : Nat) : Int :=
  if z.isSummer seconds then z.summer else z.standard

/-! ## Numbers in the text of a zone -/

/-- A blank in front of a number. -/
def isBlank (c : Char) : Bool := c == ' ' || ('\t' ≤ c && c ≤ '\r')

/-- A sign, if there is one: whether it is a minus. -/
def sign? : List Char → Option Bool × List Char
  | '-' :: cs => (some true, cs)
  | '+' :: cs => (some false, cs)
  | cs => (none, cs)

/-- The largest number of 64 bits. -/
def largest : Nat := 18446744073709551615

/-- A number behind blanks and a sign, of which 16 bits are kept. -/
def number? (cs : List Char) : Option (Nat × List Char) :=
  let (minus, cs) := sign? (cs.dropWhile isBlank)
  let ds := cs.takeWhile Text.isDigit
  if ds.isEmpty then none
  else
    let n := Text.value ds
    let n : Int := if largest < n then largest else if minus == some true then -n else n
    some ((n % 65536).toNat, cs.dropWhile Text.isDigit)

/-- Up to a count of numbers with a separator between them, and the text behind the last. -/
def numbers (separator : Char) (cs : List Char) : Nat → List Nat × List Char
  | 0 => ([], cs)
  | count + 1 =>
    match number? cs with
    | none => ([], cs)
    | some (n, c :: rest) =>
      if c == separator then
        match numbers separator rest count with
        | ([], _) => ([n], c :: rest)
        | (ns, rest) => (n :: ns, rest)
      else ([n], c :: rest)
    | some (n, []) => ([n], [])

/-! ## Reading a zone -/

/-- What follows the name of a zone, which is three letters or more, or a name in angle brackets. -/
def afterName? (cs : List Char) : Option (List Char) :=
  match cs with
  | '<' :: cs =>
    let isInner (c : Char) : Bool := c.isAlphanum || c == '+' || c == '-'
    let name := cs.takeWhile isInner
    match cs.dropWhile isInner with
    | '>' :: rest => if 3 ≤ name.length then some rest else none
    | _ => none
  | cs => if 3 ≤ (cs.takeWhile Char.isAlpha).length then some (cs.dropWhile Char.isAlpha) else none

/-- An offset: a sign, hours, minutes and seconds, each held within its bounds. -/
def offset? (cs : List Char) : Option Int × List Char :=
  let (minus, rest) := sign? cs
  match numbers ':' rest 3 with
  | ([], _) => (none, rest)
  | (ns, rest) =>
    let part (i bound unit : Nat) : Nat := min ((ns[i]?).getD 0) bound * unit
    let seconds : Nat := part 0 24 3600 + part 1 59 60 + part 2 59 1
    (some (if minus == some true then (seconds : Int) else -seconds), rest)

/-- The offset behind the name of a zone, which starts with a digit or a sign. -/
def standardOffset? (cs : List Char) : Option (Int × List Char) :=
  match cs with
  | [] => none
  | c :: _ =>
    if c == '-' || c == '+' || Text.isDigit c then
      match offset? cs with
      | (some offset, rest) => some (offset, rest)
      | (none, _) => none
    else none

/-- The number of a day. -/
def dayNumber? (first : Nat) (cs : List Char) : Option (Nat × List Char) :=
  match Text.decimal? (cs.takeWhile Text.isDigit) with
  | some n => if first ≤ n && n ≤ 365 then some (n, cs.dropWhile Text.isDigit) else none
  | none => none

/-- The day of a change; a change that is left out is on `usual`. With the day comes the text behind
it, if the day could be read. -/
def yearDay (usual : YearDay) (cs : List Char) : YearDay × Option (List Char) :=
  match cs with
  | [] => (usual, some [])
  | 'J' :: cs =>
    match dayNumber? 1 cs with
    | some (n, rest) => (.withoutLeapDay n, some rest)
    | none => (.withoutLeapDay 0, none)
  | 'M' :: cs =>
    let (ns, rest) := numbers '.' cs 3
    let (month, week, day) := ((ns[0]?).getD 0, (ns[1]?).getD 0, (ns[2]?).getD 0)
    let fine := ns.length == 3 && 1 ≤ month && month ≤ 12 && 1 ≤ week && week ≤ 5 && day ≤ 6
    (.weekday month week day, if fine then some rest else none)
  | cs =>
    match dayNumber? 0 cs with
    | some (n, rest) => (.counted n, some rest)
    | none => (.counted 0, none)

/-- The time of day of a change: hours, minutes and seconds behind a minus sign or none. -/
def timeOfDay (cs : List Char) : Int × List Char :=
  let (minus, cs) := match cs with
    | '-' :: cs => (true, cs)
    | cs => (false, cs)
  let (ns, rest) := numbers ':' cs 3
  let seconds : Nat :=
    (ns[0]?).getD 2 * 3600 + (ns[1]?).getD 0 * 60 + (ns[2]?).getD 0
  (if minus then -(seconds : Int) else seconds, rest)

/-- A change of the clocks, at two o'clock if no time is given, and the text behind it, if it could
be read. -/
def clockChange (usual : YearDay) (cs : List Char) : ClockChange × Option (List Char) :=
  let cs := match cs with
    | ',' :: cs => cs
    | cs => cs
  match yearDay usual cs with
  | (day, none) => (⟨day, 0⟩, none)
  | (day, some rest) =>
    match rest with
    | '/' :: [] => (⟨day, 0⟩, none)
    | '/' :: cs =>
      let (seconds, rest) := timeOfDay cs
      (⟨day, seconds⟩, some rest)
    | [] | ',' :: _ => (⟨day, 7200⟩, some rest)
    | _ => (⟨day, 0⟩, none)

/-- The days on which the clocks change where a zone does not say so. -/
def usualStart : YearDay := .weekday 3 2 0
def usualEnd : YearDay := .weekday 11 1 0

/-- The local time of a zone with summer time, from what follows the offset of standard time. Summer
time is an hour ahead if no offset is given. -/
def withSummer (standard : Int) (cs : List Char) : LocalTime :=
  let (summer, cs) : Int × List Char := match afterName? cs with
    | none => (0, cs)
    | some cs =>
      let (offset, cs) := offset? cs
      (offset.getD (standard + 3600), cs)
  match clockChange usualStart cs with
  | (starts, none) => { standard, summer, starts }
  | (starts, some cs) => { standard, summer, starts, ends := (clockChange usualEnd cs).1 }

/-- The local time of a zone; a colon may stand in front. -/
def ofText (zone : List Char) : LocalTime :=
  let zone := match zone with
    | ':' :: zone => zone
    | zone => zone
  match (afterName? zone).bind standardOffset? with
  | none => {}
  | some (standard, []) => fixed standard
  | some (standard, rest) => withSummer standard rest

end LocalTime

/-- The local offset in seconds at a moment; without a zone it is that of universal time. -/
def localOffset (zone : Option String) (nanos : Nat) : Int :=
  match zone with
  | none => 0
  | some zone => (LocalTime.ofText zone.toList).offsetAt (nanos / 1000000000)

end SelfTrace.Log
