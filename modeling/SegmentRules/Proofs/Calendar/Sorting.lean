import SegmentRules.Proofs.Calendar.Binding
import SegmentRules.Proofs.Calendar.Successor
import SegmentRules.Proofs.Text.Order

/-! # Times sorted as texts

Within the years of four digits the texts bound in queries have one width, and they are ordered as
the times are. -/
namespace SegmentRules

open Calendar (Date)

/-- Part by part, a date is before another one or it is the same one with something more. -/
theorem Calendar.Date.before_or_same_iff {a b : Date} {more : Prop} :
    (a.Before b ∨ a = b ∧ more) ↔
      a.year < b.year ∨ a.year = b.year ∧
        (a.month < b.month ∨ a.month = b.month ∧ (a.day < b.day ∨ a.day = b.day ∧ more)) := by
  obtain ⟨year, month, day⟩ := a
  obtain ⟨year', month', day'⟩ := b
  simp only [Before, mk.injEq]
  tauto

namespace Timestamp

variable {a b t : Timestamp}

def toSecond (t : Timestamp) : Timestamp := { t with nanos := 0 }

/-- The year has at most four digits and no sign, and the time is no leap second. -/
structure IsOrdinary (t : Timestamp) : Prop where
  first : 0 ≤ t.date.year
  last : t.date.year ≤ 9999
  noLeap : t.isLeapSecond = false

instance (t : Timestamp) : Decidable t.IsOrdinary :=
  decidable_of_iff (0 ≤ t.date.year ∧ t.date.year ≤ 9999 ∧ t.isLeapSecond = false)
    ⟨fun ⟨first, last, noLeap⟩ => ⟨first, last, noLeap⟩,
      fun ⟨first, last, noLeap⟩ => ⟨first, last, noLeap⟩⟩

/-! ## The order of times by their parts -/

theorem le_iff :
    a.le b = true ↔ a.seconds < b.seconds ∨ a.seconds = b.seconds ∧ a.nanos ≤ b.nanos := by
  simp [le]

theorem seconds_lt_iff : a.seconds < b.seconds ↔
    a.date.Before b.date ∨ a.date = b.date ∧ a.secondOfDay < b.secondOfDay := by
  obtain ⟨hrange, hnumber⟩ := Date.ofDayNumber_spec a.dayNumber
  obtain ⟨hrange', hnumber'⟩ := Date.ofDayNumber_spec b.dayNumber
  have hclock := a.dayNumber_secondOfDay
  have hclock' := b.dayNumber_secondOfDay
  have hof := a.secondOfDay_lt
  have hof' := b.secondOfDay_lt
  rw [date, date, Date.before_iff hrange hrange', hnumber, hnumber', Date.ofDayNumber_inj]
  omega

theorem secondOfDay_lt_iff : a.secondOfDay < b.secondOfDay ↔
    a.secondOfDay / 3600 < b.secondOfDay / 3600 ∨ a.secondOfDay / 3600 = b.secondOfDay / 3600 ∧
      (a.secondOfDay / 60 % 60 < b.secondOfDay / 60 % 60 ∨
        a.secondOfDay / 60 % 60 = b.secondOfDay / 60 % 60 ∧
          a.secondOfDay % 60 < b.secondOfDay % 60) := by
  omega

/-- All parts of a time but the year have two digits. -/
structure HasPairs (t : Timestamp) : Prop where
  month : t.date.month < 100
  day : t.date.day < 100
  hour : t.secondOfDay / 3600 < 100
  minute : t.secondOfDay / 60 % 60 < 100
  second : t.secondOfDay % 60 < 100

theorem hasPairs (t : Timestamp) : t.HasPairs := by
  obtain ⟨hrange, -⟩ := Date.ofDayNumber_spec t.dayNumber
  have hdate : t.date.InRange := hrange
  have hmonth := hdate.2.1
  have hday := hdate.2.2.2
  have hlength := Calendar.monthLength_le t.date.year t.date.month
  have hof := t.secondOfDay_lt
  constructor <;> omega

/-! ## The order of texts -/

namespace IsOrdinary

theorem year_lt (h : t.IsOrdinary) : t.date.year.natAbs < 10 ^ 4 := by
  have := h.first
  have := h.last
  omega

theorem bindingText_toList (h : t.IsOrdinary) :
    t.bindingText.toList = (Numeral.padded 4 t.date.year.natAbs).toList ++ '-' ::
      ((Numeral.padded 2 t.date.month).toList ++ '-' ::
      ((Numeral.padded 2 t.date.day).toList ++ ' ' ::
      ((Numeral.padded 2 (t.secondOfDay / 3600)).toList ++ ':' ::
      ((Numeral.padded 2 (t.secondOfDay / 60 % 60)).toList ++ ':' ::
      ((Numeral.padded 2 (t.secondOfDay % 60)).toList ++ []))))) := by
  have hyear : yearText t.date.year = Numeral.padded 4 t.date.year.natAbs :=
    if_pos ⟨h.first, h.last⟩
  have hsecond : t.writtenSecond = t.secondOfDay % 60 := by simp [writtenSecond, h.noLeap]
  rw [Timestamp.bindingText_toList, hyear, hsecond]

theorem bindingText_length (h : t.IsOrdinary) : t.bindingText.length = 19 := by
  have hfour := Numeral.padded_length (by decide) h.year_lt
  have htwo : ∀ {n : Nat}, n < 100 → (Numeral.padded 2 n).toList.length = 2 :=
    fun hn => Numeral.padded_length (by decide) hn
  have hpairs := t.hasPairs
  rw [← String.length_toList, h.bindingText_toList]
  simp only [List.length_append, List.length_cons, List.length_nil, hfour, htwo hpairs.month,
    htwo hpairs.day, htwo hpairs.hour, htwo hpairs.minute, htwo hpairs.second]

/-- Each part of the text has its width, so the first part in which two texts differ decides. -/
theorem bindingText_lt_iff (ha : a.IsOrdinary) (hb : b.IsOrdinary) :
    a.bindingText < b.bindingText ↔ a.seconds < b.seconds := by
  have htwo : ∀ {m n : Nat} {x y : List Char}, m < 100 → n < 100 →
      ((Numeral.padded 2 m).toList ++ x < (Numeral.padded 2 n).toList ++ y ↔
        m < n ∨ m = n ∧ x < y) :=
    fun hm hn => Numeral.padded_append_lt_iff (by decide) hm hn
  have hyears : (a.date.year.natAbs < b.date.year.natAbs ↔ a.date.year < b.date.year) ∧
      (a.date.year.natAbs = b.date.year.natAbs ↔ a.date.year = b.date.year) := by
    have := ha.first
    have := hb.first
    omega
  obtain ⟨hmonth, hday, hhour, hminute, hsecond⟩ := a.hasPairs
  obtain ⟨hmonth', hday', hhour', hminute', hsecond'⟩ := b.hasPairs
  rw [String.lt_iff_toList_lt, ha.bindingText_toList, hb.bindingText_toList,
    Numeral.padded_append_lt_iff (by decide) ha.year_lt hb.year_lt, seconds_lt_iff,
    secondOfDay_lt_iff, Date.before_or_same_iff]
  simp only [Text.cons_lt_cons_self, htwo hmonth hmonth', htwo hday hday', htwo hhour hhour',
    htwo hminute hminute', htwo hsecond hsecond', hyears, List.lt_irrefl, and_false, or_false]

theorem bindingText_toSecond (h : t.IsOrdinary) : t.toSecond.bindingText = t.bindingText := by
  have hwhole : t.toSecond.isLeapSecond = false := rfl
  simp only [bindingText, clockText, h.noLeap, hwhole]
  rfl

theorem bindingText_eq_iff (ha : a.IsOrdinary) (hb : b.IsOrdinary) :
    a.bindingText = b.bindingText ↔ a.toSecond = b.toSecond := by
  constructor
  · intro h
    have hread : ofBindingText? a.bindingText = some b.toSecond := by
      rw [h]
      exact ofBindingText?_of_not_leap hb.noLeap
    exact Option.some.inj ((ofBindingText?_of_not_leap ha.noLeap).symm.trans hread)
  · intro h
    rw [← ha.bindingText_toSecond, h, hb.bindingText_toSecond]

theorem bindingText_le_iff (ha : a.IsOrdinary) (hb : b.IsOrdinary) :
    a.bindingText ≤ b.bindingText ↔ a.toSecond.le b.toSecond = true := by
  have hseconds : a.toSecond.le b.toSecond = true ↔ a.seconds ≤ b.seconds := by
    rw [le_iff]
    simp only [toSecond]
    omega
  rw [← String.not_lt, hb.bindingText_lt_iff ha, hseconds, Int.not_lt]

end IsOrdinary
end Timestamp
end SegmentRules
