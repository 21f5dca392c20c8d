import Workflow.Decimal.Integer
import Workflow.Text.Blank

/-!
# Timestamps

Moments of universal time, in the calendar text of events and checkpoints:
`2024-05-06T07:08:09.123Z`.

## Main Definitions

* `Timestamp` — a day, a second of the day, and nanoseconds.
* `Timestamp.parse?` — the moment of a text with any offset.
* `Timestamp.render` — the text of a moment.

## Design Notes

Days are counted from the first of January 1970.  The second 60 that is
inserted now and then counts as a second that lasts for two: its nanoseconds
go on from a thousand million.  Reading is generous: blanks may stand between
the parts, a blank for the `T`, and one digit where two are usual.
-/

namespace Workflow

/-- A moment of universal time. -/
structure Timestamp where
  /-- Days since the first of January 1970. -/
  day : Int
  /-- Seconds since midnight. -/
  second : Nat
  /-- Nanoseconds since that second, up to two thousand million. -/
  nano : Nat
  deriving DecidableEq, Repr

namespace Timestamp

/-! ### The calendar -/

/-- A date of the calendar. -/
structure Date where
  /-- The year. -/
  year : Int
  /-- The month, from 1. -/
  month : Nat
  /-- The day of the month, from 1. -/
  day : Nat
  deriving DecidableEq, Repr

/-- Whether a year has a 29th of February. -/
def isLeap (year : Int) : Bool := year % 4 == 0 && (year % 100 != 0 || year % 400 == 0)

/-- The days in a month. -/
def daysInMonth (year : Int) (month : Nat) : Nat :=
  match month with
  | 2 => if isLeap year then 29 else 28
  | 4 | 6 | 9 | 11 => 30
  | _ => 31

/-- The days before a date since the first of January 1970.  Years are counted from March, so that
the leap day is the last of its year. -/
def Date.toDays (d : Date) : Int :=
  let year : Int := if d.month ≤ 2 then d.year - 1 else d.year
  let era : Int := year / 400
  let yearOfEra : Int := year % 400
  let month : Int := if d.month ≤ 2 then d.month + 9 else d.month - 3
  let dayOfYear : Int := (153 * month + 2) / 5 + d.day - 1
  let dayOfEra : Int := yearOfEra * 365 + yearOfEra / 4 - yearOfEra / 100 + dayOfYear
  era * 146097 + dayOfEra - 719468

/-- The date of a day since the first of January 1970. -/
def Date.ofDays (days : Int) : Date :=
  let shifted : Int := days + 719468
  let era : Int := shifted / 146097
  let dayOfEra : Int := shifted % 146097
  let yearOfEra : Int :=
    (dayOfEra - dayOfEra / 1460 + dayOfEra / 36524 - dayOfEra / 146096) / 365
  let dayOfYear : Int := dayOfEra - (365 * yearOfEra + yearOfEra / 4 - yearOfEra / 100)
  let month : Int := (5 * dayOfYear + 2) / 153
  let day : Int := dayOfYear - (153 * month + 2) / 5 + 1
  let month' : Int := if month < 10 then month + 3 else month - 9
  let year : Int := yearOfEra + era * 400 + (if month' ≤ 2 then 1 else 0)
  ⟨year, month'.toNat, day.toNat⟩

/-- The first and the last year of the calendar. -/
def firstYear : Int := -262143

/-- The last year of the calendar. -/
def lastYear : Int := 262142

/-- A date of the calendar, when there is one. -/
def date? (year : Int) (month day : Nat) : Option Date :=
  if firstYear ≤ year ∧ year ≤ lastYear ∧ 1 ≤ month ∧ month ≤ 12 ∧ 1 ≤ day ∧
      day ≤ daysInMonth year month then
    some ⟨year, month, day⟩
  else none

/-! ### Reading -/

/-- A number of at least one and at most `width` digits behind blanks, and the text behind it. -/
def number? (width : Nat) (cs : List Char) : Option (Nat × List Char) :=
  let trimmed := Text.trimStart cs
  let ds := (trimmed.take width).takeWhile Char.isDigit
  if ds = [] then none else some (Decimal.natOfDigits ds, trimmed.drop ds.length)

/-- A year: four digits, or any number of digits behind a sign. -/
def year? (cs : List Char) : Option (Int × List Char) :=
  let signed (sign : Int) (cs : List Char) : Option (Int × List Char) :=
    let ds := cs.takeWhile Char.isDigit
    if ds = [] then none else some (sign * Decimal.natOfDigits ds, cs.drop ds.length)
  match Text.trimStart cs with
  | '-' :: rest => signed (-1) rest
  | '+' :: rest => signed 1 rest
  | rest => (number? 4 rest).map (Prod.map Int.ofNat id)

/-- The text behind a character that may stand behind blanks. -/
def mark? (c : Char) (cs : List Char) : Option (List Char) :=
  match Text.trimStart cs with
  | d :: rest => if c = d then some rest else none
  | [] => none

/-- Nanoseconds: nine digits behind a point, or fewer; more are ignored. -/
def fraction? : List Char → Option (Nat × List Char)
  | '.' :: cs =>
    let ds := cs.takeWhile Char.isDigit
    if ds = [] then none
    else
      let leading := ds.take 9
      some (Decimal.natOfDigits leading * Nat.pow 10 (9 - leading.length), cs.drop ds.length)
  | cs => some (0, cs)

/-- The number of two digits. -/
def twoDigits? : List Char → Option (Nat × List Char)
  | a :: b :: rest =>
    if a.isDigit && b.isDigit then some (Decimal.natOfDigits [a, b], rest) else none
  | _ => none

/-- The offset of a text from universal time, in seconds. -/
def offset? (cs : List Char) : Option (Int × List Char) := do
  let trimmed := Text.trimStart cs
  if (trimmed.take 3).map Char.toUpper = "UTC".toList then
    return (0, trimmed.drop 3)
  match trimmed with
  | [] => none
  | c :: rest =>
    if c = 'Z' ∨ c = 'z' then return (0, rest)
    else if c = '+' ∨ c = '-' ∨ c = '\u2212' then
      let (hours, rest) ← twoDigits? rest
      let (minutes, rest) ← twoDigits? (rest.dropWhile fun c => c == ':' || Text.isBlank c)
      let seconds : Int := hours * 3600 + minutes * 60
      if 60 ≤ minutes ∨ 86400 ≤ seconds then none
      return (if c = '+' then seconds else -seconds, rest)
    else none

/-- The moment of a text. -/
def parse? (text : String) : Option Timestamp := do
  let (year, cs) ← year? text.toList
  let (month, cs) ← (mark? '-' cs).bind (number? 2)
  let (day, cs) ← (mark? '-' cs).bind (number? 2)
  let cs ← match cs with
    | c :: rest => if c = 'T' ∨ c = 't' ∨ c = ' ' then some rest else none
    | [] => none
  let (hour, cs) ← number? 2 cs
  let (minute, cs) ← (mark? ':' cs).bind (number? 2)
  let (second, cs) ← (mark? ':' cs).bind (number? 2)
  let (fraction, cs) ← fraction? cs
  let (offset, cs) ← offset? cs
  let date ← date? year month day
  if 23 < hour ∨ 59 < minute ∨ 60 < second ∨ Text.trimStart cs ≠ [] then none
  let (second, extra) := if second = 60 then (59, 1000000000) else (second, 0)
  let seconds : Int := date.toDays * 86400 + hour * 3600 + minute * 60 + second - offset
  let universal := seconds / 86400
  if universal < Date.toDays ⟨firstYear, 1, 1⟩ ∨ Date.toDays ⟨lastYear, 12, 31⟩ < universal then
    none
  return ⟨universal, (seconds % 86400).toNat, fraction + extra⟩

/-! ### Writing -/

/-- A number with zeros in front up to a width. -/
def padded (width n : Nat) : String :=
  let ds := Nat.toDigits 10 n
  String.ofList (List.replicate (width - ds.length) '0' ++ ds)

/-- A year: four digits, with a sign where those do not suffice. -/
def renderYear (year : Int) : String :=
  if 0 ≤ year ∧ year ≤ 9999 then padded 4 year.toNat
  else (if year < 0 then "-" else "+") ++ padded 4 year.natAbs

/-- Nanoseconds with 0, 3, 6 or 9 digits, the fewest that are exact. -/
def renderFraction (nano : Nat) : String :=
  if nano = 0 then ""
  else if nano % 1000000 = 0 then "." ++ padded 3 (nano / 1000000)
  else if nano % 1000 = 0 then "." ++ padded 6 (nano / 1000)
  else "." ++ padded 9 nano

/-- The text of a moment; `zone` spells universal time. -/
def renderWith (zone : String) (t : Timestamp) : String :=
  let date := Date.ofDays t.day
  let (second, nano) :=
    if 1000000000 ≤ t.nano then (t.second % 60 + 1, t.nano - 1000000000)
    else (t.second % 60, t.nano)
  renderYear date.year ++ "-" ++ padded 2 date.month ++ "-" ++ padded 2 date.day ++ "T" ++
    padded 2 (t.second / 3600) ++ ":" ++ padded 2 (t.second / 60 % 60) ++ ":" ++
    padded 2 second ++ renderFraction nano ++ zone

/-- The text of a moment. -/
def render (t : Timestamp) : String := t.renderWith "Z"

/-- The text of a moment with universal time as an offset. -/
def renderOffset (t : Timestamp) : String := t.renderWith "+00:00"

/-- The first moment of 1970. -/
def epoch : Timestamp := ⟨0, 0, 0⟩

end Timestamp

end Workflow
