import ProxyPolicy.Text.Hex
import ProxyPolicy.Time.Binary64

/-!
# Instants

A point in time, as the seconds since the Unix epoch and the nanoseconds after the second, and its
two written forms. A log gives it as a decimal number of seconds, which is read as a binary64
number; it is shown as a date and a time of day in UTC.
-/

namespace ProxyPolicy.Time

open ProxyPolicy.Text

/-- A point in time from the Unix epoch on. -/
structure Instant where
  /-- The whole seconds since 1970-01-01 00:00:00 UTC. -/
  seconds : Nat
  /-- The nanoseconds after the second. -/
  nanos : Nat
  deriving DecidableEq, Repr

/-- A decimal number: `digits / 10 ^ places`. -/
structure Decimal where
  /-- The number that the digits write without the point. -/
  digits : Nat
  /-- The number of digits after the point. -/
  places : Nat
  deriving DecidableEq, Repr

/-- The number that a text of digits and points writes. It has at most one point and at least one
digit. -/
def Decimal.ofText? (cs : List Char) : Option Decimal :=
  let whole := cs.takeWhile (· != '.')
  let fraction := (cs.dropWhile (· != '.')).drop 1
  if fraction.contains '.' then none
  else if (whole ++ fraction).isEmpty || !(whole ++ fraction).all Char.isDigit then none
  else some ⟨ofDecimal (whole ++ fraction), fraction.length⟩

/-- The last second that has a date: the end of the year 262142. -/
def lastSecond : Nat := 8210266876799

/-- The instant that a number of seconds denotes, by way of the nearest binary64 number: its whole
part, and its fraction times a billion, again rounded to binary64 and then cut off. -/
def Instant.ofDecimal? (d : Decimal) : Option Instant :=
  let value := toBinary64 d.digits (Nat.pow 10 d.places)
  let rest := value.fract
  let billionths := toBinary64 (rest.numerator * 1000000000) (Nat.pow 2 rest.places)
  if value.floor ≤ lastSecond then some ⟨value.floor, billionths.floor⟩ else none

/-- The instant that a text of digits and points denotes. -/
def Instant.ofText? (cs : List Char) : Option Instant :=
  (Decimal.ofText? cs).bind Instant.ofDecimal?

/-! ## Dates -/

/-- A day of the Gregorian calendar. -/
structure Date where
  /-- The year. -/
  year : Nat
  /-- The month, from 1. -/
  month : Nat
  /-- The day of the month, from 1. -/
  day : Nat
  deriving DecidableEq, Repr

/-- The date of a number of days after 1970-01-01. Years are counted from March, so that the leap
day is the last of its year, in eras of 400 years from 0000-03-01, which is 719468 days before. -/
def Date.ofDays (days : Nat) : Date :=
  let shifted := days + 719468
  let era := shifted / 146097
  let dayOfEra := shifted % 146097
  let yearOfEra := (dayOfEra - dayOfEra / 1460 + dayOfEra / 36524 - dayOfEra / 146096) / 365
  let dayOfYear := dayOfEra - (365 * yearOfEra + yearOfEra / 4 - yearOfEra / 100)
  let monthFromMarch := (5 * dayOfYear + 2) / 153
  let day := dayOfYear - (153 * monthFromMarch + 2) / 5 + 1
  let month := if monthFromMarch < 10 then monthFromMarch + 3 else monthFromMarch - 9
  ⟨yearOfEra + 400 * era + if month ≤ 2 then 1 else 0, month, day⟩

/-- A number in decimal, with leading zeros up to a width. -/
def padded (width n : Nat) : String :=
  let digits := Nat.toDigits 10 n
  String.ofList (List.replicate (width - digits.length) '0' ++ digits)

/-- A year: at least four digits, and a plus sign before more than four. -/
def yearText (year : Nat) : String :=
  (if 9999 < year then "+" else "") ++ padded 4 year

/-- An instant as a date and a time of day in UTC, to the second. -/
def Instant.display (t : Instant) : String :=
  let date := Date.ofDays (t.seconds / 86400)
  let second := t.seconds % 86400
  yearText date.year ++ "-" ++ padded 2 date.month ++ "-" ++ padded 2 date.day ++ " " ++
    padded 2 (second / 3600) ++ ":" ++ padded 2 (second / 60 % 60) ++ ":" ++
    padded 2 (second % 60) ++ " UTC"

end ProxyPolicy.Time
