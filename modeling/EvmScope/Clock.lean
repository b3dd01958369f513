import EvmScope.Text.Numeral

set_option autoImplicit false

/-! # Clock readings

A reading of the clock is the number of microseconds since the beginning of 1970 in universal time. Its
date follows from counting days in the Gregorian calendar from the first of March of the year zero, so
that a leap day is the last day of its year; 146097 days make four centuries. -/

namespace EvmScope

/-- A reading of the clock. -/
structure Clock where
  /-- The microseconds since the beginning of 1970. -/
  micros : Nat
  deriving DecidableEq, Repr

/-- A date of the calendar. -/
structure CalendarDate where
  year : Nat
  month : Nat
  day : Nat
  deriving DecidableEq, Repr

/-- The date a number of days after the beginning of 1970. -/
def CalendarDate.ofDays (days : Nat) : CalendarDate :=
  let sinceMarch := days + 719468
  let era := sinceMarch / 146097
  let dayOfEra := sinceMarch % 146097
  let yearOfEra := (dayOfEra - dayOfEra / 1460 + dayOfEra / 36524 - dayOfEra / 146096) / 365
  let dayOfYear := dayOfEra - (365 * yearOfEra + yearOfEra / 4 - yearOfEra / 100)
  let monthFromMarch := (5 * dayOfYear + 2) / 153
  let month := if monthFromMarch < 10 then monthFromMarch + 3 else monthFromMarch - 9
  { year := yearOfEra + era * 400 + (if month ≤ 2 then 1 else 0)
    month := month
    day := dayOfYear - (153 * monthFromMarch + 2) / 5 + 1 }

namespace Clock

/-- The reading at a number of milliseconds. -/
def ofMillis (millis : Nat) : Clock := ⟨millis * 1000⟩

/-- The milliseconds since the beginning of 1970. -/
def millis (c : Clock) : Nat := c.micros / 1000

/-- The seconds since the beginning of 1970. -/
def seconds (c : Clock) : Nat := c.micros / 1000000

/-- A number in at least `width` digits. -/
def digits (width n : Nat) : String :=
  let shown := Nat.toDigits 10 n
  String.ofList (List.replicate (width - shown.length) '0' ++ shown)

/-- The time of day. -/
def timeText (c : Clock) : String :=
  let s := c.seconds % 86400
  digits 2 (s / 3600) ++ ":" ++ digits 2 (s / 60 % 60) ++ ":" ++ digits 2 (s % 60)

/-- The date. -/
def dateText (c : Clock) : String :=
  let date := CalendarDate.ofDays (c.seconds / 86400)
  digits 4 date.year ++ "-" ++ digits 2 date.month ++ "-" ++ digits 2 date.day

/-- Date and time with the part of a second, if there is one, and the offset of universal time. -/
def isoText (c : Clock) : String :=
  let part := c.micros % 1000000
  let fraction := if part = 0 then "" else "." ++ digits 6 part
  c.dateText ++ "T" ++ c.timeText ++ fraction ++ "+00:00"

end Clock

end EvmScope
