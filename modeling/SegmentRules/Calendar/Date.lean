/-! # Dates of the proleptic Gregorian calendar -/
namespace SegmentRules.Calendar

structure Date where
  year : Int
  month : Nat
  day : Nat
  deriving DecidableEq, Repr

def isLeapYear (year : Int) : Bool := year % 4 == 0 && (year % 100 != 0 || year % 400 == 0)

def monthLengths (year : Int) : List Nat :=
  [31, if isLeapYear year then 29 else 28, 31, 30, 31, 30, 31, 31, 30, 31, 30, 31]

def monthLength (year : Int) (month : Nat) : Nat := ((monthLengths year)[month - 1]?).getD 0

/-- The days from the first of January of year zero to that of the given year. -/
def daysBeforeYear (year : Int) : Int :=
  365 * year + (year + 3) / 4 - (year + 99) / 100 + (year + 399) / 400

def daysBeforeMonth (year : Int) (month : Nat) : Nat :=
  ((monthLengths year).take (month - 1)).foldr (· + ·) 0

def firstYear : Int := -262143
def lastYear : Int := 262142

namespace Date

def Valid (date : Date) : Prop :=
  firstYear ≤ date.year ∧ date.year ≤ lastYear ∧ 1 ≤ date.month ∧ date.month ≤ 12 ∧
    1 ≤ date.day ∧ date.day ≤ monthLength date.year date.month

instance (date : Date) : Decidable date.Valid := by unfold Valid; infer_instance

/-- The days since the first of January of year zero. -/
def dayNumber (date : Date) : Int :=
  daysBeforeYear date.year + daysBeforeMonth date.year date.month + (date.day - 1 : Int)

end Date

/-- The year of a day among the 400 that repeat. -/
def yearOfCycle (day : Int) : Int :=
  let guess := day / 366
  if daysBeforeYear (guess + 1) ≤ day then guess + 1 else guess

/-- The month and day of the month of a day of the year, both counted from one. -/
def monthAndDay : List Nat → Nat → Nat × Nat
  | [], day => (1, day + 1)
  | length :: rest, day =>
    if day < length then (1, day + 1)
    else
      let (month, day) := monthAndDay rest (day - length)
      (month + 1, day)

/-- The date with a day number. After 146097 days the calendar repeats. -/
def Date.ofDayNumber (number : Int) : Date :=
  let cycle := number / 146097
  let day := number % 146097
  let year := yearOfCycle day
  let (month, dayOfMonth) := monthAndDay (monthLengths year) (day - daysBeforeYear year).toNat
  ⟨cycle * 400 + year, month, dayOfMonth⟩

def firstDayNumber : Int := (Date.mk firstYear 1 1).dayNumber

def lastDayNumber : Int := (Date.mk lastYear 12 31).dayNumber

end SegmentRules.Calendar
