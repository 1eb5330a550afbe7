import SegmentRules.Proofs.Calendar.Binding
import SegmentRules.Proofs.Calendar.Successor
import SegmentRules.Window

/-! # Clocks of sites and the ends of the calendar

The clock of a site shows the date of UTC or one next to it. A window is given if the calendar has
this date and the last day, and the program is broken off if it lacks this date. -/
namespace SegmentRules

open Calendar (Date)

namespace Timestamp

variable {utc site t : Timestamp} {offset : Int}

/-- A clock that is ahead by less than a day, or behind, shows the same date as the other one or
one next to it. -/
inductive AheadBy (offset : Int) (utc site : Timestamp) : Prop
  | sameDay (date : site.date = utc.date)
      (clock : (site.secondOfDay : Int) = utc.secondOfDay + offset)
  | nextDay (date : site.date = utc.date.next)
      (clock : (site.secondOfDay : Int) = utc.secondOfDay + offset - 86400)
  | dayBefore (date : site.date.next = utc.date)
      (clock : (site.secondOfDay : Int) = utc.secondOfDay + offset + 86400)

theorem shift_aheadBy (utc : Timestamp) (ahead : -86400 < offset) (behind : offset < 86400) :
    AheadBy offset utc (utc.shift offset) := by
  have hof := utc.secondOfDay_lt
  have hclock := utc.dayNumber_secondOfDay
  have hof' := (utc.shift offset).secondOfDay_lt
  have hclock' : (utc.shift offset).dayNumber * 86400 + (utc.shift offset).secondOfDay =
      utc.seconds + offset := (utc.shift offset).dayNumber_secondOfDay
  have hday : (utc.shift offset).dayNumber = utc.dayNumber ∨
      (utc.shift offset).dayNumber = utc.dayNumber + 1 ∨
      (utc.shift offset).dayNumber + 1 = utc.dayNumber := by omega
  rcases hday with hsame | hnext | hbefore
  · exact .sameDay (by rw [date, hsame, date]) (by omega)
  · exact .nextDay (by rw [date, hnext, Date.ofDayNumber_succ, date]) (by omega)
  · exact .dayBefore (by rw [date, ← Date.ofDayNumber_succ, hbefore, date]) (by omega)

/-! ## The ends of the calendar -/

/-- The years of the calendar. -/
def InYears (t : Timestamp) : Prop := -262143 ≤ t.date.year ∧ t.date.year ≤ 262142

/-- So many days after the time the calendar is not over. -/
def EndsInYears (start : Timestamp) (days : UInt32) : Prop :=
  (Date.next^[days.toNat] start.date).year ≤ 262142

theorem date_add (t : Timestamp) (days : Nat) :
    Date.ofDayNumber (t.dayNumber + days) = Date.next^[days] t.date :=
  Date.ofDayNumber_add t.dayNumber days

theorem firstDay_inRange : (⟨-262143, 1, 1⟩ : Date).InRange := by decide

theorem lastDay_inRange : (⟨262142, 12, 31⟩ : Date).InRange := by decide

/-- The calendar ends with a whole year. -/
theorem le_lastDayNumber_iff (number : Int) :
    number ≤ Calendar.lastDayNumber ↔ (Date.ofDayNumber number).year ≤ 262142 := by
  obtain ⟨hrange, hnumber⟩ := Date.ofDayNumber_spec number
  have hbefore : Date.Before ⟨262142, 12, 31⟩ (Date.ofDayNumber number) ↔
      Calendar.lastDayNumber < number := by
    rw [Date.before_iff lastDay_inRange hrange, hnumber]
    rfl
  obtain ⟨-, hmonth, -, hday⟩ := hrange
  have hlength := Calendar.monthLength_le (Date.ofDayNumber number).year
    (Date.ofDayNumber number).month
  rw [← Int.not_lt, ← hbefore, Date.Before]
  dsimp only
  omega

/-- The calendar starts with a whole year. -/
theorem firstDayNumber_le_iff (number : Int) :
    Calendar.firstDayNumber ≤ number ↔ -262143 ≤ (Date.ofDayNumber number).year := by
  obtain ⟨hrange, hnumber⟩ := Date.ofDayNumber_spec number
  have hbefore : (Date.ofDayNumber number).Before ⟨-262143, 1, 1⟩ ↔
      number < Calendar.firstDayNumber := by
    rw [Date.before_iff hrange firstDay_inRange, hnumber]
    rfl
  obtain ⟨hmonth, -, hday, -⟩ := hrange
  rw [← Int.not_lt, ← hbefore, Date.Before]
  dsimp only
  omega

theorem inCalendar_iff : t.InCalendar ↔ t.InYears := by
  rw [InCalendar, firstDayNumber_le_iff, le_lastDayNumber_iff, ← date, InYears]

theorem ends_iff (start : Timestamp) (days : UInt32) :
    start.dayNumber + days.toNat ≤ Calendar.lastDayNumber ↔ start.EndsInYears days := by
  rw [le_lastDayNumber_iff, date_add, EndsInYears]

/-- A year away from the ends of the calendar no clock leaves it. -/
theorem AheadBy.inYears (h : AheadBy offset utc site) (first : -262143 < utc.date.year)
    (last : utc.date.year < 262142) : site.InYears := by
  rw [InYears]
  cases h with
  | sameDay date clock =>
    rw [date]
    omega
  | nextDay date clock =>
    have hyear := utc.date.next_year
    rw [date]
    omega
  | dayBefore date clock =>
    have hyear := site.date.next_year
    rw [date] at hyear
    omega

end Timestamp

namespace Window

variable {now : Instant} {days : UInt32} {offset : Int} {window : Window}

/-- What becomes of a window: the program is broken off, the window is refused, or it is given. -/
inductive Ending (site : Timestamp) (days : UInt32) : Except RuleError Window → Prop
  | panicked (outside : ¬ site.InYears) : Ending site days (.error .panicked)
  | late (inside : site.InYears) (late : ¬ site.EndsInYears days) :
      Ending site days (.error (.settings (.windowOutOfRange days)))
  | given (inside : site.InYears) (ends : site.EndsInYears days) :
      Ending site days (.ok ⟨site, .endOfDay (site.dayNumber + days.toNat)⟩)

theorem endingInDays_ending (now : Instant) (days : UInt32) (offset : Int) :
    Ending (now.onSite offset) days (endingInDays now days offset) := by
  by_cases hinside : (now.onSite offset).InCalendar
  · have hsite : now.siteTime? offset = some (now.onSite offset) := if_pos hinside
    rw [endingInDays, hsite]
    dsimp only
    split
    · rename_i hends
      exact .given (Timestamp.inCalendar_iff.mp hinside) ((Timestamp.ends_iff _ _).mp hends)
    · rename_i hlate
      exact .late (Timestamp.inCalendar_iff.mp hinside) (mt (Timestamp.ends_iff _ _).mpr hlate)
  · have hsite : now.siteTime? offset = none := if_neg hinside
    rw [endingInDays, hsite]
    exact .panicked (mt Timestamp.inCalendar_iff.mpr hinside)

theorem endingInDays_eq_ok (h : endingInDays now days offset = .ok window) :
    window = ⟨now.onSite offset, .endOfDay ((now.onSite offset).dayNumber + days.toNat)⟩ := by
  have hending := endingInDays_ending now days offset
  rw [h] at hending
  cases hending
  rfl

theorem endingInDays_panicked_iff :
    endingInDays now days offset = .error .panicked ↔ ¬ (now.onSite offset).InYears := by
  have hending := endingInDays_ending now days offset
  generalize endingInDays now days offset = outcome at hending ⊢
  cases hending with
  | panicked outside => simp [outside]
  | late inside _ => simp [inside]
  | given inside _ => simp [inside]

end Window
end SegmentRules
