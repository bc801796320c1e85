import ProxyPolicy.Text.Hex
import ProxyPolicy.Toml.Reader

/-!
# TOML dates and times

A date, a time of day, or a date and a time with or without an offset from UTC. The day must exist
in its month; a minute may have a sixty-first second.
-/

namespace ProxyPolicy.Toml

open ProxyPolicy.Text

/-- Reads a number of so many digits within bounds. -/
def fixedNumber (digits least most : Nat) : Read Nat := do
  let text := (← get).take digits
  Read.require (text.length = digits && text.all Char.isDigit)
  modify (·.drop digits)
  let n := ofDecimal text
  Read.require (least ≤ n && n ≤ most)
  return n

/-- The number of days in a month. -/
def daysInMonth (year month : Nat) : Nat :=
  match month with
  | 2 => if year % 4 = 0 && (year % 100 != 0 || year % 400 = 0) then 29 else 28
  | 4 | 6 | 9 | 11 => 30
  | _ => 31

/-- Reads a date. -/
def date : Read Unit := do
  let year ← fixedNumber 4 0 9999
  Read.char '-'
  let month ← fixedNumber 2 1 12
  Read.char '-'
  discard (fixedNumber 2 1 (daysInMonth year month))

/-- Reads a time of day. -/
def timeOfDay : Read Unit := do
  discard (fixedNumber 2 0 23)
  Read.char ':'
  discard (fixedNumber 2 0 59)
  Read.char ':'
  discard (fixedNumber 2 0 60)
  if ← Read.textIf ['.'] then discard (Read.run1 Char.isDigit)

/-- Reads an offset from UTC. -/
def offset : Read Unit := do
  let c ← Read.one fun c => ['Z', 'z', '+', '-'].contains c
  if c == '+' || c == '-' then
    discard (fixedNumber 2 0 23)
    Read.char ':'
    discard (fixedNumber 2 0 59)

/-- Reads the time that may follow a date. -/
def timeOfDate : Read Unit := do
  discard (Read.one fun c => ['T', 't', ' '].contains c)
  timeOfDay
  offset <|> pure ()

/-- Reads a date, a time, or both. -/
def dateTime : Read Unit := (date *> (timeOfDate <|> pure ())) <|> timeOfDay

end ProxyPolicy.Toml
