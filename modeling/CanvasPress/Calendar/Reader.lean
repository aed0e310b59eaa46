/-
# Reading timestamps

A timestamp in a record is a date, a time and an offset from UTC.  The reader
is lenient: blanks may stand in front of numbers and separators, the letter
between date and time may be a space, and a fraction may have any number of
digits, of which nine count.  The result is the moment in UTC.
-/

import CanvasPress.Calendar.Timestamp
import CanvasPress.Decimal.Power
import CanvasPress.Text.Blank

namespace CanvasPress.Calendar

open Text

/-- Why a text is no timestamp. -/
inductive TimeFault where
  | outOfRange
  | impossible
  | invalid
  | tooShort
  | tooLong
deriving DecidableEq

/-- The text of a fault. -/
def TimeFault.message : TimeFault → String
  | .outOfRange => "input is out of range"
  | .impossible => "no possible date and time matching input"
  | .invalid => "input contains invalid characters"
  | .tooShort => "premature end of input"
  | .tooLong => "trailing input"

/-- The value of decimal digits. -/
def digitsValue (digits : List Char) : Nat :=
  digits.foldl (fun n c => 10 * n + (c.toNat - 48)) 0

/-- One or more digits, at most `most` of them. -/
def readDigits (most : Nat) (s : List Char) : Except TimeFault (Nat × List Char) :=
  let digits := (s.take most).takeWhile Char.isDigit
  if s.isEmpty then .error .tooShort
  else if digits.isEmpty then .error .invalid
  else .ok (digitsValue digits, s.drop digits.length)

/-- A number of at most two digits between bounds, blanks in front allowed. -/
def readField (low high : Nat) (s : List Char) : Except TimeFault (Nat × List Char) := do
  let (n, rest) ← readDigits 2 (trimLeft s)
  if low ≤ n ∧ n ≤ high then return (n, rest) else throw .outOfRange

/-- A separator, blanks in front allowed. -/
def readMark (mark : Char) (s : List Char) : Except TimeFault (Unit × List Char) :=
  match trimLeft s with
  | [] => .error .tooShort
  | c :: rest => if c = mark then .ok ((), rest) else .error .invalid

/-- A year that fits a signed word of 32 bits. -/
def boundedYear (year : Int) : Except TimeFault Int :=
  if -(twoTo 31 : Int) ≤ year ∧ year < twoTo 31 then .ok year else .error .outOfRange

/-- A year: four digits at most, or any number of digits behind a sign. -/
def readYear (s : List Char) : Except TimeFault (Int × List Char) := do
  match trimLeft s with
  | '-' :: rest =>
    let (n, behind) ← readDigits rest.length rest
    return (← boundedYear (-(n : Int)), behind)
  | '+' :: rest =>
    let (n, behind) ← readDigits rest.length rest
    return (← boundedYear n, behind)
  | rest =>
    let (n, behind) ← readDigits 4 rest
    return ((n : Int), behind)

/-- The fraction of a second in nanoseconds; none counts as zero. -/
def readFraction (s : List Char) : Except TimeFault (Nat × List Char) :=
  match s with
  | '.' :: rest => do
    let (n, behind) ← readDigits 9 rest
    let places := rest.length - behind.length
    return (n * tenTo (9 - places), behind.dropWhile Char.isDigit)
  | rest => .ok (0, rest)

/-- Two digits of an offset.  The text is too short only if it ends before its
second byte; a longer character in their place is no digit. -/
def readPair (s : List Char) : Except TimeFault (Nat × List Char) :=
  match s with
  | a :: b :: rest =>
    if a.isDigit ∧ b.isDigit then .ok (digitsValue [a, b], rest) else .error .invalid
  | [a] => .error (if a.utf8Size < 2 then .tooShort else .invalid)
  | [] => .error .tooShort

/-- An offset from UTC in seconds, behind its sign. -/
def readOffset (s : List Char) : Except TimeFault (Nat × List Char) := do
  let (hours, rest) ← readPair s
  let (minutes, rest) ← readPair (rest.dropWhile fun c => c = ':' || isBlank c)
  if 59 < minutes then throw .outOfRange
  return (3600 * hours + 60 * minutes, rest)

/-- The zone of a timestamp as an offset in seconds. -/
def readZone (s : List Char) : Except TimeFault (Int × List Char) :=
  match s with
  | 'Z' :: rest => .ok (0, rest)
  | 'z' :: rest => .ok (0, rest)
  | '+' :: rest => (readOffset rest).map fun r => ((r.1 : Int), r.2)
  | '-' :: rest => (readOffset rest).map fun r => (-(r.1 : Int), r.2)
  | '−' :: rest => (readOffset rest).map fun r => (-(r.1 : Int), r.2)
  | [] => .error .tooShort
  | _ =>
    if (s.take 3).map Char.toLower = ['u', 't', 'c'] then .ok (0, s.drop 3)
    else .error .invalid

/-- The first day and the last day that have a timestamp. -/
def firstDate : Date := ⟨-262143, 1, 1⟩

@[inherit_doc firstDate]
def lastDate : Date := ⟨262142, 12, 31⟩

/-- The moment of a date and time at an offset.  The date has to exist, the
offset has to be less than a day, and the moment in UTC has to lie between the
first day and the last. -/
def momentOf (date : Date) (hour minute second nanos : Nat) (offset : Int) :
    Except TimeFault Timestamp :=
  if date.year < firstDate.year ∨ lastDate.year < date.year ∨
      daysInMonth date.year date.month < date.day ∨ 86400 ≤ offset.natAbs then .error .outOfRange
  else
    let leap := second = 60
    let seconds : Int := date.toDays * 86400 + 3600 * hour + 60 * minute +
      (if leap then 59 else second) - offset
    if seconds < firstDate.toDays * 86400 ∨ (lastDate.toDays + 1) * 86400 ≤ seconds then
      .error .impossible
    else .ok ⟨seconds, if leap then nanos + 1000000000 else nanos⟩

/-- The date in front of a timestamp. -/
def readDate (s : List Char) : Except TimeFault (Date × List Char) := do
  let (year, s) ← readYear s
  let ((), s) ← readMark '-' s
  let (month, s) ← readField 1 12 s
  let ((), s) ← readMark '-' s
  let (day, s) ← readField 1 31 s
  return (⟨year, month, day⟩, s)

/-- The letter or space between date and time. -/
def readJoint (s : List Char) : Except TimeFault (Unit × List Char) :=
  match s with
  | [] => .error .tooShort
  | c :: rest => if c = 't' ∨ c = 'T' ∨ c = ' ' then .ok ((), rest) else .error .invalid

/-- The moment written by a text. -/
def readTimestamp (text : String) : Except TimeFault Timestamp := do
  let (date, s) ← readDate text.toList
  let ((), s) ← readJoint s
  let (hour, s) ← readField 0 23 s
  let ((), s) ← readMark ':' s
  let (minute, s) ← readField 0 59 s
  let ((), s) ← readMark ':' s
  let (second, s) ← readField 0 60 s
  let (nanos, s) ← readFraction s
  let (offset, s) ← readZone (trimLeft s)
  if !(trimLeft s).isEmpty then throw .tooLong
  momentOf date hour minute second nanos offset

end CanvasPress.Calendar
