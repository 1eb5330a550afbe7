import Mathlib
import SegmentRules.Calendar.Date

/-! # Day numbers and dates

A day number has one date, and the date's parts lie in their ranges. -/
namespace SegmentRules.Calendar

theorem daysBeforeYear_succ (year : Int) :
    daysBeforeYear (year + 1) = daysBeforeYear year + 365 + if isLeapYear year then 1 else 0 := by
  by_cases h : isLeapYear year = true
  · have hleap : year % 4 = 0 ∧ (year % 100 ≠ 0 ∨ year % 400 = 0) := by
      simpa [isLeapYear] using h
    simp only [h, if_true, daysBeforeYear]
    omega
  · have hplain : ¬ (year % 4 = 0 ∧ (year % 100 ≠ 0 ∨ year % 400 = 0)) := by
      simpa [isLeapYear] using h
    simp only [h, Bool.false_eq_true, if_false, daysBeforeYear]
    omega

theorem daysBeforeYear_cycle (cycle year : Int) :
    daysBeforeYear (cycle * 400 + year) = cycle * 146097 + daysBeforeYear year := by
  simp only [daysBeforeYear]
  omega

theorem isLeapYear_cycle (cycle year : Int) :
    isLeapYear (cycle * 400 + year) = isLeapYear year := by
  have h4 : (cycle * 400 + year) % 4 = year % 4 := by omega
  have h100 : (cycle * 400 + year) % 100 = year % 100 := by omega
  have h400 : (cycle * 400 + year) % 400 = year % 400 := by omega
  simp only [isLeapYear, h4, h100, h400]

theorem monthLengths_cycle (cycle year : Int) :
    monthLengths (cycle * 400 + year) = monthLengths year := by
  simp only [monthLengths, isLeapYear_cycle]

theorem daysBeforeMonth_eq_sum (year : Int) (month : Nat) :
    daysBeforeMonth year month = ((monthLengths year).take (month - 1)).sum := rfl

theorem monthLengths_sum (year : Int) :
    ((monthLengths year).sum : Int) = daysBeforeYear (year + 1) - daysBeforeYear year := by
  have hsum : (monthLengths year).sum = if isLeapYear year then 366 else 365 := by
    rw [monthLengths]
    cases isLeapYear year <;> rfl
  rw [daysBeforeYear_succ, hsum]
  split <;> omega

theorem monthLength_le (year : Int) (month : Nat) : monthLength year month ≤ 31 := by
  have hall : ∀ length ∈ monthLengths year, length ≤ 31 := by
    rw [monthLengths]
    cases isLeapYear year <;> decide
  rw [monthLength]
  cases h : (monthLengths year)[month - 1]? with
  | none => simp
  | some length => exact hall length (List.mem_of_getElem? h)

/-- A year has at most 366 days, so the guess is at most one year early. -/
theorem yearOfCycle_spec {day : Int} (h : 0 ≤ day) (h' : day < 146097) :
    daysBeforeYear (yearOfCycle day) ≤ day ∧ day < daysBeforeYear (yearOfCycle day + 1) := by
  have hlow : daysBeforeYear (day / 366) ≤ day := by
    simp only [daysBeforeYear]
    omega
  have hhigh : day < daysBeforeYear (day / 366 + 1 + 1) := by
    simp only [daysBeforeYear]
    omega
  simp only [yearOfCycle]
  split
  · rename_i hnext
    exact ⟨hnext, hhigh⟩
  · rename_i hthis
    exact ⟨hlow, by omega⟩

/-- A day of the year lies in one month, behind the months before it. -/
theorem monthAndDay_spec {lengths : List Nat} {day : Nat} (h : day < lengths.sum) :
    ∃ month length, lengths[month]? = some length ∧
      (monthAndDay lengths day).1 = month + 1 ∧ 1 ≤ (monthAndDay lengths day).2 ∧
      (monthAndDay lengths day).2 ≤ length ∧
      (lengths.take month).sum + ((monthAndDay lengths day).2 - 1) = day := by
  induction lengths generalizing day with
  | nil => simp at h
  | cons length rest ih =>
    by_cases hfirst : day < length
    · have hmost : day + 1 ≤ length := by omega
      exact ⟨0, length, rfl, by simp [monthAndDay, hfirst], by simp [monthAndDay, hfirst],
        by simp only [monthAndDay, hfirst, if_true]; exact hmost, by simp [monthAndDay, hfirst]⟩
    · have hless : day - length < rest.sum := by
        simp only [List.sum_cons] at h
        omega
      obtain ⟨month, found, hfound, hmonth, hone, hmost, hsum⟩ := ih hless
      refine ⟨month + 1, found, by simpa using hfound, ?_, ?_, ?_, ?_⟩
      · simp [monthAndDay, hfirst, hmonth]
      · simpa [monthAndDay, hfirst] using hone
      · simpa [monthAndDay, hfirst] using hmost
      · simp only [monthAndDay, hfirst, if_false, List.take_succ_cons, List.sum_cons]
        omega

namespace Date

/-- The parts of a date lie in their ranges. The year may be any. -/
def InRange (date : Date) : Prop :=
  1 ≤ date.month ∧ date.month ≤ 12 ∧ 1 ≤ date.day ∧ date.day ≤ monthLength date.year date.month

instance (date : Date) : Decidable date.InRange := inferInstanceAs (Decidable (_ ∧ _))

theorem ofDayNumber_spec (number : Int) :
    (ofDayNumber number).InRange ∧ (ofDayNumber number).dayNumber = number := by
  have hlow : 0 ≤ number % 146097 := Int.emod_nonneg number (by decide)
  have hhigh : number % 146097 < 146097 := Int.emod_lt_of_pos number (by decide)
  obtain ⟨hyear, hnext⟩ := yearOfCycle_spec hlow hhigh
  have hsum := monthLengths_sum (yearOfCycle (number % 146097))
  have hday : (number % 146097 - daysBeforeYear (yearOfCycle (number % 146097))).toNat <
      (monthLengths (yearOfCycle (number % 146097))).sum := by omega
  obtain ⟨month, length, hlength, hmonth, hone, hmost, hrest⟩ := monthAndDay_spec hday
  have htwelve : month < 12 := by
    have := (List.getElem?_eq_some_iff.mp hlength).1
    simpa [monthLengths] using this
  have hfull : monthLengths (number / 146097 * 400 + yearOfCycle (number % 146097)) =
      monthLengths (yearOfCycle (number % 146097)) := monthLengths_cycle _ _
  have hcycle := daysBeforeYear_cycle (number / 146097) (yearOfCycle (number % 146097))
  have hsplit : number / 146097 * 146097 + number % 146097 = number := by omega
  constructor
  · simp only [InRange, ofDayNumber, monthLength, hfull, hmonth]
    simp [hlength]
    omega
  · simp only [dayNumber, ofDayNumber, daysBeforeMonth_eq_sum, hfull, hmonth, Nat.add_sub_cancel,
      hcycle]
    omega

end Date
end SegmentRules.Calendar
