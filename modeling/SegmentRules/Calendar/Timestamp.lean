import SegmentRules.Calendar.Date
import SegmentRules.Numeral
import SegmentRules.Text.Blank
import SegmentRules.Text.Parts

/-! # Points in time on a clock without a zone -/
namespace SegmentRules

open Calendar (Date)

/-- Seconds since the start of year zero and nanoseconds. A fraction from one second on marks the
leap second that follows. -/
structure Timestamp where
  seconds : Int
  nanos : Nat
  deriving DecidableEq, Repr

namespace Timestamp

/-- Earlier or at the same time; a leap second is after the second it follows. -/
def le (a b : Timestamp) : Bool :=
  a.seconds < b.seconds || (a.seconds == b.seconds && a.nanos ≤ b.nanos)

def dayNumber (t : Timestamp) : Int := t.seconds / 86400

def date (t : Timestamp) : Date := Date.ofDayNumber t.dayNumber

def InCalendar (t : Timestamp) : Prop :=
  Calendar.firstDayNumber ≤ t.dayNumber ∧ t.dayNumber ≤ Calendar.lastDayNumber

instance (t : Timestamp) : Decidable t.InCalendar := inferInstanceAs (Decidable (_ ∧ _))

def secondOfDay (t : Timestamp) : Nat := (t.seconds % 86400).toNat

def isLeapSecond (t : Timestamp) : Bool := 1000000000 ≤ t.nanos

def endOfDay (dayNumber : Int) : Timestamp := ⟨dayNumber * 86400 + 86399, 0⟩

def shift (t : Timestamp) (seconds : Int) : Timestamp := ⟨t.seconds + seconds, t.nanos⟩

/-- Four digits, or a sign and at least four digits for years before zero or after 9999. -/
def yearText (year : Int) : String :=
  if 0 ≤ year ∧ year ≤ 9999 then Numeral.padded 4 year.natAbs
  else (if year < 0 then "-" else "+") ++ Numeral.padded 4 year.natAbs

def dateText (date : Date) : String :=
  yearText date.year ++ "-" ++ Numeral.padded 2 date.month ++ "-" ++ Numeral.padded 2 date.day

/-- Hours, minutes and seconds; a leap second counts on. -/
def clockText (t : Timestamp) : String :=
  let second := t.secondOfDay
  Numeral.padded 2 (second / 3600) ++ ":" ++ Numeral.padded 2 (second / 60 % 60) ++ ":" ++
    Numeral.padded 2 (second % 60 + if t.isLeapSecond then 1 else 0)

/-- Three, six or nine digits of the fraction, the fewest that are exact; none for zero. -/
def fractionText (nanos : Nat) : String :=
  if nanos = 0 then ""
  else if nanos % 1000000 = 0 then "." ++ Numeral.padded 3 (nanos / 1000000)
  else if nanos % 1000 = 0 then "." ++ Numeral.padded 6 (nanos / 1000)
  else "." ++ Numeral.padded 9 nanos

def text (t : Timestamp) : String :=
  dateText t.date ++ "T" ++ clockText t ++ fractionText (t.nanos % 1000000000)

/-- The form bound in queries: to the second, so that it sorts as the time does. -/
def bindingText (t : Timestamp) : String := dateText t.date ++ " " ++ clockText t

structure Reading where
  year : Int
  month : Nat
  day : Nat
  hour : Nat
  minute : Nat
  second : Nat
  nanos : Nat
  deriving DecidableEq, Repr

/-- The time of a reading, if its parts are in range. Second 60 is the leap second after 59. -/
def ofReading? (r : Reading) : Option Timestamp :=
  let date : Date := ⟨r.year, r.month, r.day⟩
  if date.Valid ∧ r.hour < 24 ∧ r.minute < 60 ∧ r.second ≤ 60 then
    let clock := r.hour * 3600 + r.minute * 60 + min r.second 59
    some ⟨date.dayNumber * 86400 + clock, r.nanos + if r.second = 60 then 1000000000 else 0⟩
  else none

def takeNumber? (most : Nat) (text : List Char) : Option (Nat × List Char) :=
  match (text.take most).takeWhile Numeral.isDigit with
  | [] => none
  | digits => some (Numeral.value digits, text.drop digits.length)

/-- A fraction behind its point. Digits after the ninth do not count. -/
def takeFraction? (text : List Char) : Option (Nat × List Char) :=
  match text.takeWhile Numeral.isDigit with
  | [] => none
  | digits =>
    let kept := digits.take 9
    some (Numeral.value kept * Nat.pow 10 (9 - kept.length), text.drop digits.length)

def readFraction? : List Char → Option (Nat × List Char)
  | '.' :: text => takeFraction? text
  | text => some (0, text)

/-- A year: digits of any number behind a sign, else at most four. -/
def takeYear? : List Char → Option (Int × List Char)
  | '+' :: text => (takeNumber? text.length text).map fun (n, rest) => ((n : Int), rest)
  | '-' :: text => (takeNumber? text.length text).map fun (n, rest) => (-(n : Int), rest)
  | text => (takeNumber? 4 text).map fun (n, rest) => ((n : Int), rest)

def takeMark? (mark : Char) (text : List Char) : Option (List Char) :=
  match Text.trimStart text with
  | c :: rest => if c = mark then some rest else none
  | [] => none

def takePart? (mark : Char) (text : List Char) : Option (Nat × List Char) := do
  takeNumber? 2 (Text.trimStart (← takeMark? mark text))

/-- The time a text denotes. Blanks may stand before each part and at the end. -/
def ofText? (text : String) : Option Timestamp := do
  let (year, rest) ← takeYear? (Text.trimStart text.toList)
  let (month, rest) ← takePart? '-' rest
  let (day, rest) ← takePart? '-' rest
  let (hour, rest) ← takePart? 'T' rest
  let (minute, rest) ← takePart? ':' rest
  let (second, rest) ← takePart? ':' rest
  let (nanos, rest) ← readFraction? rest
  if (Text.trimStart rest).isEmpty then ofReading? ⟨year, month, day, hour, minute, second, nanos⟩
  else none

end Timestamp
end SegmentRules
