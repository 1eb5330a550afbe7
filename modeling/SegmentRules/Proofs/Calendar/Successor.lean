import SegmentRules.Proofs.Calendar.Date

/-! # Days one after another

Which day is next follows from the lengths of the months. Day numbers count these steps, so they
order dates as the calendar does. -/
namespace SegmentRules.Calendar

/-! ## Months -/

theorem daysBeforeMonth_succ (year : Int) {month : Nat} (h : 1 ≤ month) :
    daysBeforeMonth year (month + 1) = daysBeforeMonth year month + monthLength year month := by
  have hmonth : month + 1 - 1 = (month - 1) + 1 := by omega
  rw [daysBeforeMonth_eq_sum, daysBeforeMonth_eq_sum, hmonth, List.take_add_one, List.sum_append,
    monthLength]
  cases (monthLengths year)[month - 1]? <;> simp

theorem daysBeforeMonth_mono (year : Int) {a b : Nat} (ha : 1 ≤ a) (h : a ≤ b) :
    daysBeforeMonth year a ≤ daysBeforeMonth year b := by
  induction b, h using Nat.le_induction with
  | base => exact Nat.le_refl _
  | succ b hab ih =>
    rw [daysBeforeMonth_succ year (Nat.le_trans ha hab)]
    omega

theorem daysBeforeMonth_first (year : Int) : daysBeforeMonth year 1 = 0 := rfl

/-- Behind the twelfth month the year is over. -/
theorem daysBeforeYear_next (year : Int) :
    daysBeforeYear (year + 1) = daysBeforeYear year + daysBeforeMonth year 13 := by
  have hall : daysBeforeMonth year 13 = (monthLengths year).sum := rfl
  have hsum := monthLengths_sum year
  rw [hall]
  omega

theorem daysBeforeYear_mono {a b : Int} (h : a ≤ b) : daysBeforeYear a ≤ daysBeforeYear b := by
  simp only [daysBeforeYear]
  omega

theorem one_le_monthLength (year : Int) {month : Nat} (h : 1 ≤ month) (h' : month ≤ 12) :
    1 ≤ monthLength year month := by
  have hlengths : (monthLengths year).length = 12 := rfl
  have hall : ∀ length ∈ monthLengths year, 1 ≤ length := by
    rw [monthLengths]
    cases isLeapYear year <;> decide
  have hlast : month - 1 < (monthLengths year).length := by omega
  rw [monthLength, List.getElem?_eq_getElem hlast]
  exact hall _ (List.getElem_mem hlast)

namespace Date

variable {a b date : Date}

/-- The day after a date: the next one of its month, or the first of the next month. -/
def next (date : Date) : Date :=
  if date.day < monthLength date.year date.month then ⟨date.year, date.month, date.day + 1⟩
  else if date.month < 12 then ⟨date.year, date.month + 1, 1⟩
  else ⟨date.year + 1, 1, 1⟩

/-- An earlier year, an earlier month of the year, or an earlier day of the month. -/
def Before (a b : Date) : Prop :=
  a.year < b.year ∨ a.year = b.year ∧ (a.month < b.month ∨ a.month = b.month ∧ a.day < b.day)

instance (a b : Date) : Decidable (a.Before b) := inferInstanceAs (Decidable (_ ∨ _))

theorem next_spec (h : date.InRange) :
    date.next.InRange ∧ date.next.dayNumber = date.dayNumber + 1 := by
  obtain ⟨hfirst, hlast, hone, hmost⟩ := h
  unfold next
  split
  · rename_i hday
    refine ⟨⟨hfirst, hlast, Nat.le_add_left 1 _, hday⟩, ?_⟩
    simp only [dayNumber]
    omega
  · rename_i hday
    have hend : date.day = monthLength date.year date.month := by omega
    have hmonth := daysBeforeMonth_succ date.year hfirst
    split
    · rename_i hnext
      refine ⟨⟨Nat.le_add_left 1 _, hnext, Nat.le_refl 1, ?_⟩, ?_⟩
      · exact one_le_monthLength _ (Nat.le_add_left 1 _) hnext
      · simp only [dayNumber, hmonth]
        omega
    · rename_i hnext
      have hdecember : date.month = 12 := by omega
      have hyear := daysBeforeYear_next date.year
      have htwelve : 1 ≤ 12 := by decide
      rw [hdecember] at hmonth hend
      refine ⟨⟨Nat.le_refl 1, htwelve, Nat.le_refl 1, ?_⟩, ?_⟩
      · exact one_le_monthLength _ (Nat.le_refl 1) htwelve
      · simp only [dayNumber, daysBeforeMonth_first, hyear, hmonth, hdecember]
        omega

theorem next_year (date : Date) :
    date.next.year = date.year ∨ date.next.year = date.year + 1 := by
  unfold next
  split
  · exact .inl rfl
  · split
    · exact .inl rfl
    · exact .inr rfl

/-! ## The order of dates -/

theorem dayNumber_lt_of_before (ha : a.InRange) (hb : b.InRange) (h : a.Before b) :
    a.dayNumber < b.dayNumber := by
  obtain ⟨hfirst, hlast, hone, hmost⟩ := ha
  obtain ⟨hfirst', -, hone', -⟩ := hb
  have hmonth := daysBeforeMonth_succ a.year hfirst
  simp only [dayNumber]
  -- A later year begins behind all months of this one, a later month behind all days of this one.
  rcases h with hyear | ⟨hyear, hmonths | ⟨hmonths, hday⟩⟩
  · have hover : daysBeforeMonth a.year (a.month + 1) ≤ daysBeforeMonth a.year 13 :=
      daysBeforeMonth_mono a.year (Nat.le_add_left 1 a.month) (Nat.add_le_add_right hlast 1)
    have hend := daysBeforeYear_next a.year
    have hlater := daysBeforeYear_mono (Int.add_one_le_of_lt hyear)
    omega
  · have hover := daysBeforeMonth_mono a.year (Nat.le_add_left 1 a.month) hmonths
    rw [← hyear]
    omega
  · rw [← hyear, ← hmonths]
    omega

theorem before_trichotomy (a b : Date) : a.Before b ∨ a = b ∨ b.Before a := by
  obtain ⟨year, month, day⟩ := a
  obtain ⟨year', month', day'⟩ := b
  simp only [Before, mk.injEq]
  omega

theorem before_iff (ha : a.InRange) (hb : b.InRange) :
    a.Before b ↔ a.dayNumber < b.dayNumber := by
  refine ⟨dayNumber_lt_of_before ha hb, fun h => ?_⟩
  rcases before_trichotomy a b with hbefore | rfl | hafter
  · exact hbefore
  · exact absurd h (Int.lt_irrefl _)
  · exact absurd (dayNumber_lt_of_before hb ha hafter) (Int.lt_asymm h)

theorem eq_of_dayNumber (ha : a.InRange) (hb : b.InRange) (h : a.dayNumber = b.dayNumber) :
    a = b := by
  rcases before_trichotomy a b with hbefore | rfl | hafter
  · exact absurd h (Int.ne_of_lt (dayNumber_lt_of_before ha hb hbefore))
  · rfl
  · exact absurd h.symm (Int.ne_of_lt (dayNumber_lt_of_before hb ha hafter))

theorem ofDayNumber_inj {m n : Int} : ofDayNumber m = ofDayNumber n ↔ m = n := by
  constructor
  · intro h
    rw [← (ofDayNumber_spec m).2, h, (ofDayNumber_spec n).2]
  · rintro rfl
    rfl

theorem ofDayNumber_succ (number : Int) :
    ofDayNumber (number + 1) = (ofDayNumber number).next := by
  obtain ⟨hrange, hnumber⟩ := ofDayNumber_spec number
  obtain ⟨hnext, hcount⟩ := next_spec hrange
  obtain ⟨hrange', hnumber'⟩ := ofDayNumber_spec (number + 1)
  exact eq_of_dayNumber hrange' hnext (by rw [hnumber', hcount, hnumber])

/-- Some days ahead is as many steps from one day to the next. -/
theorem ofDayNumber_add (number : Int) (days : Nat) :
    ofDayNumber (number + days) = next^[days] (ofDayNumber number) := by
  induction days with
  | zero => simp
  | succ days ih =>
    have hsucc : number + ((days + 1 : Nat) : Int) = number + days + 1 := by omega
    rw [hsucc, ofDayNumber_succ, ih, Function.iterate_succ_apply']

end Date
end SegmentRules.Calendar
