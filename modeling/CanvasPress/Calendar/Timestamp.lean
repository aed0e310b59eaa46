/-
# Timestamps

A moment in UTC, to the nanosecond.  Nanoseconds beyond a full second stand for
a leap second.  Three written forms are in use: whole seconds in documents, as
many fractional digits as needed in records, and digits only in file names.
-/

import CanvasPress.Text.Number

namespace CanvasPress

/-! ## Days of the civil calendar

The Gregorian calendar, extended without end in both directions.  Days are
counted from the first of January 1970.  Years begin in March for the purpose
of counting, which puts the leap day at their end.
-/

namespace Calendar

/-- A day of the civil calendar. -/
structure Date where
  year : Int
  month : Nat
  day : Nat
deriving DecidableEq, Inhabited

/-- The date of a day counted from the first of January 1970. -/
def Date.ofDays (days : Int) : Date :=
  let shifted := days + 719468
  let era := shifted.fdiv 146097
  let ofEra := (shifted.fmod 146097).toNat
  let yearOfEra := (ofEra - ofEra / 1460 + ofEra / 36524 - ofEra / 146096) / 365
  let ofYear := ofEra - (365 * yearOfEra + yearOfEra / 4 - yearOfEra / 100)
  let shiftedMonth := (5 * ofYear + 2) / 153
  let day := ofYear - (153 * shiftedMonth + 2) / 5 + 1
  let month := if shiftedMonth < 10 then shiftedMonth + 3 else shiftedMonth - 9
  let year : Int := yearOfEra + era * 400
  ⟨if month ≤ 2 then year + 1 else year, month, day⟩

/-- The day of a date, counted from the first of January 1970. -/
def Date.toDays (date : Date) : Int :=
  let year : Int := if date.month ≤ 2 then date.year - 1 else date.year
  let era := year.fdiv 400
  let yearOfEra := (year.fmod 400).toNat
  let shiftedMonth := if 2 < date.month then date.month - 3 else date.month + 9
  let ofYear := (153 * shiftedMonth + 2) / 5 + date.day - 1
  let ofEra := yearOfEra * 365 + yearOfEra / 4 - yearOfEra / 100 + ofYear
  era * 146097 + ofEra - 719468

/-- Whether a year has a leap day. -/
def isLeap (year : Int) : Bool :=
  year % 4 = 0 && (year % 100 != 0 || year % 400 = 0)

/-- The number of days of a month. -/
def daysInMonth (year : Int) (month : Nat) : Nat :=
  if month = 2 then (if isLeap year then 29 else 28)
  else if month = 4 ∨ month = 6 ∨ month = 9 ∨ month = 11 then 30
  else 31

end Calendar

/-! ## Moments -/

open Text Calendar

/-- A moment in UTC. -/
structure Timestamp where
  /-- Seconds since the beginning of 1970. -/
  seconds : Int
  nanos : Nat
deriving DecidableEq, Inhabited

namespace Timestamp

/-- The date of a moment. -/
def date (t : Timestamp) : Date :=
  Date.ofDays (t.seconds.fdiv 86400)

/-- Seconds since midnight, a leap second counted to the minute it ends. -/
def secondOfDay (t : Timestamp) : Nat :=
  (t.seconds.fmod 86400).toNat

/-- Nanoseconds of the second, a leap second aside. -/
def subsecond (t : Timestamp) : Nat :=
  t.nanos % 1000000000

/-- A year: four digits, and a sign outside `0..9999`. -/
def yearText (year : Int) : String :=
  if 0 ≤ year ∧ year ≤ 9999 then padded 4 year.toNat
  else if year < 0 then "-" ++ padded 4 year.natAbs
  else "+" ++ padded 4 year.natAbs

/-- Hour, minute and second as they are written. -/
def clock (t : Timestamp) : Nat × Nat × Nat :=
  let s := t.secondOfDay
  (s / 3600, s / 60 % 60, s % 60 + t.nanos / 1000000000)

/-- Date and time with the given fraction. -/
def textWith (fraction : String) (t : Timestamp) : String :=
  let d := t.date
  let (hour, minute, second) := t.clock
  yearText d.year ++ "-" ++ padded 2 d.month ++ "-" ++ padded 2 d.day ++ "T" ++
    padded 2 hour ++ ":" ++ padded 2 minute ++ ":" ++ padded 2 second ++ fraction ++ "Z"

/-- Date and time in whole seconds. -/
def wholeText (t : Timestamp) : String :=
  t.textWith ""

/-- Date and time with no, three, six or nine fractional digits, as needed. -/
def exactText (t : Timestamp) : String :=
  let n := t.subsecond
  if n = 0 then t.textWith ""
  else if n % 1000000 = 0 then t.textWith ("." ++ padded 3 (n / 1000000))
  else if n % 1000 = 0 then t.textWith ("." ++ padded 6 (n / 1000))
  else t.textWith ("." ++ padded 9 n)

/-- Date, time and milliseconds in digits, for file names. -/
def stamp (t : Timestamp) : String :=
  let d := t.date
  let (hour, minute, second) := t.clock
  yearText d.year ++ padded 2 d.month ++ padded 2 d.day ++ "_" ++ padded 2 hour ++
    padded 2 minute ++ padded 2 second ++ "_" ++ padded 3 (t.subsecond / 1000000)

end Timestamp

end CanvasPress
