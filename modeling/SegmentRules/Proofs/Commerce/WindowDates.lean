import SegmentRules.Proofs.Calendar.Successor
import SegmentRules.Proofs.Commerce.WindowBounds

/-! # The dates of windows

A window starts now on the site's clock and ends with a day that is counted from the site's own
date. The offset comes first: it can move the day on which the count starts. -/
namespace SegmentRules

open Calendar (Date)

namespace Timestamp

variable {s t : Timestamp}

theorem date_eq_iterate {days : Nat} :
    t.date = Date.next^[days] s.date ↔ t.dayNumber = s.dayNumber + days := by
  rw [← date_add]
  exact Date.ofDayNumber_inj

theorem dayNumber_le (h : s.le t = true) : s.dayNumber ≤ t.dayNumber := by
  have hseconds : s.seconds ≤ t.seconds := by
    rcases le_iff.mp h with hlt | ⟨heq, -⟩
    · exact Int.le_of_lt hlt
    · exact Int.le_of_eq heq
  simp only [dayNumber]
  omega

theorem le_endOfDay_iff (whole : t.nanos = 0) {day : Int} :
    t.le (endOfDay day) = true ↔ t.dayNumber ≤ day := by
  have hof := t.secondOfDay_lt
  have hclock := t.dayNumber_secondOfDay
  simp only [le_iff, endOfDay, whole]
  omega

theorem endOfDay_date (day : Int) : (endOfDay day).date = Date.ofDayNumber day := by
  have hday : (endOfDay day).dayNumber = day := by
    simp only [endOfDay, dayNumber]
    omega
  rw [date, hday]

theorem endOfDay_secondOfDay (day : Int) : (endOfDay day).secondOfDay = 86399 := by
  simp only [endOfDay, secondOfDay]
  omega

end Timestamp

namespace Window

variable {now : Instant} {days : UInt32} {offset : Int} {window : Window}

/-- A window from a time to the last second of the day that comes so many days after that of the
time. -/
structure Spans (site : Timestamp) (days : Nat) (window : Window) : Prop where
  start : window.start = site
  lastDay : window.finish.date = Date.next^[days] site.date
  lastSecond : window.finish.secondOfDay = 23 * 3600 + 59 * 60 + 59
  whole : window.finish.nanos = 0

theorem spans_of_ok (ends : endingInDays now days offset = .ok window) :
    window.Spans (now.onSite offset) days.toNat := by
  obtain rfl := endingInDays_eq_ok ends
  refine ⟨rfl, ?_, Timestamp.endOfDay_secondOfDay _, rfl⟩
  rw [Timestamp.endOfDay_date, Timestamp.date_add]

theorem late_iff (site : Timestamp) (days : UInt32) :
    Date.Before ⟨262142, 12, 31⟩ (Date.next^[days.toNat] site.date) ↔
      ¬ site.EndsInYears days := by
  rw [Timestamp.EndsInYears, ← Timestamp.date_add]
  obtain ⟨⟨-, hmonth, -, hday⟩, -⟩ := Date.ofDayNumber_spec (site.dayNumber + days.toNat)
  have hlength := Calendar.monthLength_le (Date.ofDayNumber (site.dayNumber + days.toNat)).year
    (Date.ofDayNumber (site.dayNumber + days.toNat)).month
  rw [Date.Before]
  dsimp only
  omega

theorem start_lt_finish (ends : endingInDays now days offset = .ok window) (positive : 0 < days) :
    window.finish.le window.start = false := by
  obtain rfl := endingInDays_eq_ok ends
  have hdays : 0 < days.toNat := UInt32.lt_iff_toNat_lt.mp positive
  have hof := (now.onSite offset).secondOfDay_lt
  have hclock := (now.onSite offset).dayNumber_secondOfDay
  rw [Bool.eq_false_iff, ne_eq, Timestamp.le_iff]
  simp only [Timestamp.endOfDay]
  omega

theorem contains_iff_date (ends : endingInDays now days offset = .ok window) {t : Timestamp}
    (whole : t.nanos = 0) :
    window.contains t = true ↔ window.start.le t = true ∧
      ∃ n ≤ days.toNat, t.date = Date.next^[n] window.start.date := by
  obtain rfl := endingInDays_eq_ok ends
  simp only [contains, Bool.and_eq_true, Timestamp.le_endOfDay_iff whole,
    Timestamp.date_eq_iterate]
  refine and_congr_right fun hstart => ?_
  have hday := Timestamp.dayNumber_le hstart
  constructor
  · intro hlast
    exact ⟨(t.dayNumber - (now.onSite offset).dayNumber).toNat, by omega, by omega⟩
  · rintro ⟨n, hn, hdate⟩
    omega

/-- A window that ends in some days starts now on the site's clock, which shows the date of UTC or
one next to it, and ends with the last second of the day so many days after the site's date. Only
a last day after the end of the calendar is refused; and only if the calendar has no time of the
site, which takes a clock in its first or last year, the program is broken off. With a day ahead
the window is not empty, and it contains the whole seconds from its start to the end of its last
day. -/
theorem ends_in_days (now : Instant) (days : UInt32) (offset : Int) (ahead : -86400 < offset)
    (behind : offset < 86400) :
    Timestamp.AheadBy offset now.utc (now.onSite offset) ∧
    (now.onSite offset).nanos = now.utc.nanos ∧
    (-262143 < now.utc.date.year → now.utc.date.year < 262142 → (now.onSite offset).InYears) ∧
    (endingInDays now days offset = .error .panicked ↔ ¬ (now.onSite offset).InYears) ∧
    ((now.onSite offset).InYears →
      (endingInDays now days offset = .error (.settings (.windowOutOfRange days)) ↔
        Date.Before ⟨262142, 12, 31⟩ (Date.next^[days.toNat] (now.onSite offset).date)) ∧
      (¬ Date.Before ⟨262142, 12, 31⟩ (Date.next^[days.toNat] (now.onSite offset).date) →
        ∃ window, endingInDays now days offset = .ok window)) ∧
    ∀ window, endingInDays now days offset = .ok window →
      window.Spans (now.onSite offset) days.toNat ∧
      (0 < days → window.finish.le window.start = false) ∧
      ∀ t : Timestamp, t.nanos = 0 →
        (window.contains t = true ↔ window.start.le t = true ∧
          ∃ n ≤ days.toNat, t.date = Date.next^[n] window.start.date) := by
  have hsite : Timestamp.AheadBy offset now.utc (now.onSite offset) :=
    Timestamp.shift_aheadBy now.utc ahead behind
  refine ⟨hsite, rfl, hsite.inYears, endingInDays_panicked_iff, ?_, ?_⟩
  · intro inside
    have hending := endingInDays_ending now days offset
    generalize endingInDays now days offset = outcome at hending ⊢
    rw [late_iff]
    cases hending with
    | panicked outside => exact absurd inside outside
    | late _ late => simp [late]
    | given _ ends => simp [ends]
  · intro window ends
    refine ⟨spans_of_ok ends, start_lt_finish ends, ?_⟩
    intro t whole
    exact contains_iff_date ends whole

/-- The evening before a leap day by UTC, which is a leap day already where clocks are ahead. -/
def leapEve : Instant := ⟨⟨64002600000, 250000000⟩⟩

theorem ends_in_days_of_leapEve :
    Instant.ofText? "2028-02-28T20:00:00.25Z" = some leapEve ∧
      ∃ window, endingInDays leapEve 2 19800 = .ok window ∧
        window.start.text = "2028-02-29T01:30:00.250" ∧
        window.finish.text = "2028-03-02T23:59:59" ∧
        window.finish.le window.start = false ∧
        (∃ t, Timestamp.ofText? "2028-03-02T23:59:59" = some t ∧ window.contains t = true) ∧
        ∃ t, Timestamp.ofText? "2028-03-03T00:00:00" = some t ∧ window.contains t = false := by
  obtain ⟨-, -, -, -, -, hwindow⟩ := ends_in_days leapEve 2 19800 (by decide) (by decide)
  have hends : endingInDays leapEve 2 19800 =
      .ok ⟨⟨64002619800, 250000000⟩, ⟨64002873599, 0⟩⟩ := by decide +kernel
  obtain ⟨-, hfull, hcontains⟩ := hwindow _ hends
  refine ⟨by decide +kernel, _, hends, by decide +kernel, by decide +kernel, hfull (by decide),
    ⟨⟨64002873599, 0⟩, by decide +kernel, ?_⟩, ⟨⟨64002873600, 0⟩, by decide +kernel, ?_⟩⟩
  · exact (hcontains _ rfl).mpr ⟨by decide, 2, by decide, by decide +kernel⟩
  · rw [Bool.eq_false_iff, ne_eq, hcontains _ rfl]
    rintro ⟨-, n, hn, hdate⟩
    have hn' : n = 0 ∨ n = 1 ∨ n = 2 := by
      have : n ≤ 2 := hn
      omega
    rcases hn' with rfl | rfl | rfl <;> revert hdate <;> decide +kernel

end Window
end SegmentRules
