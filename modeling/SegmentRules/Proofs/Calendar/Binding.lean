import SegmentRules.Calendar.Instant
import SegmentRules.Proofs.Calendar.Date
import SegmentRules.Proofs.Numeral

/-! # Times bound in queries

The text of a time denotes it down to the second. -/
namespace SegmentRules.Timestamp

open Calendar (Date)
open Instant (takePair?)

theorem takeNumber?_digits {most : Nat} {text rest : List Char}
    (hall : ∀ c ∈ text, Numeral.isDigit c = true) (hne : text ≠ []) (hmost : text.length ≤ most)
    (hend : ∀ c, rest.head? = some c → Numeral.isDigit c = false) :
    takeNumber? most (text ++ rest) = some (Numeral.value text, rest) := by
  have hstop : (rest.take (most - text.length)).takeWhile Numeral.isDigit = [] := by
    cases rest with
    | nil => simp
    | cons c rest =>
      cases most - text.length with
      | zero => simp
      | succ count => simp [hend c rfl]
  have htake : ((text ++ rest).take most).takeWhile Numeral.isDigit = text := by
    rw [List.take_append, List.take_of_length_le hmost, List.takeWhile_append_of_pos hall, hstop,
      List.append_nil]
  rw [takeNumber?, htake]
  cases text with
  | nil => exact absurd rfl hne
  | cons c text => simp

theorem takeYear?_of_isDigit {c : Char} (h : Numeral.isDigit c = true) (rest : List Char) :
    takeYear? (c :: rest) = (takeNumber? 4 (c :: rest)).map fun (n, rest) => ((n : Int), rest) := by
  have hplus : c ≠ '+' := by
    rintro rfl
    exact absurd h (by decide)
  have hminus : c ≠ '-' := by
    rintro rfl
    exact absurd h (by decide)
  simp [takeYear?, hplus, hminus]

theorem takeYear?_yearText (year : Int) (rest : List Char) :
    takeYear? ((yearText year).toList ++ '-' :: rest) = some (year, '-' :: rest) := by
  have hend : ∀ c, ('-' :: rest).head? = some c → Numeral.isDigit c = false := by
    intro c hc
    obtain rfl : '-' = c := by simpa using hc
    decide
  have hread : ∀ most, (Numeral.padded 4 year.natAbs).toList.length ≤ most →
      takeNumber? most ((Numeral.padded 4 year.natAbs).toList ++ '-' :: rest) =
        some (year.natAbs, '-' :: rest) := by
    intro most hmost
    rw [takeNumber?_digits (Numeral.padded_all_isDigit 4 _) (Numeral.padded_ne_nil 4 _) hmost hend,
      Numeral.value_padded]
  by_cases hfour : 0 ≤ year ∧ year ≤ 9999
  · have hlength : (Numeral.padded 4 year.natAbs).toList.length = 4 :=
      Numeral.padded_length (by decide) (by omega)
    have hdigits := hread 4 (by omega)
    rw [yearText, if_pos hfour]
    cases htext : (Numeral.padded 4 year.natAbs).toList with
    | nil => simp [htext] at hlength
    | cons c text =>
      have hc : Numeral.isDigit c = true :=
        Numeral.padded_all_isDigit 4 year.natAbs c (by simp [htext])
      have hvalue : (year.natAbs : Int) = year := by omega
      rw [htext] at hdigits
      rw [List.cons_append] at hdigits ⊢
      simp only [takeYear?_of_isDigit hc, hdigits, Option.map_some, hvalue]
  · have hdigits := hread ((Numeral.padded 4 year.natAbs).toList ++ '-' :: rest).length (by simp)
    rw [yearText, if_neg hfour, String.toList_append, List.append_assoc]
    by_cases hsign : year < 0
    · have hvalue : -(year.natAbs : Int) = year := by omega
      have hmark : (if year < 0 then "-" else "+").toList = ['-'] := by simp [hsign]
      simp only [hmark, List.singleton_append, takeYear?, hdigits, Option.map_some, hvalue]
    · have hvalue : (year.natAbs : Int) = year := by omega
      have hmark : (if year < 0 then "-" else "+").toList = ['+'] := by simp [hsign]
      simp only [hmark, List.singleton_append, takeYear?, hdigits, Option.map_some, hvalue]

theorem takePair?_padded {n : Nat} (h : n < 100) (mark : Char) (rest : List Char) :
    takePair? mark (mark :: ((Numeral.padded 2 n).toList ++ rest)) = some (n, rest) := by
  rw [takePair?, if_pos rfl]
  exact Numeral.takeExact?_padded (by decide) h rest

def bindingReading? (text : String) : Option Reading := do
  let (year, rest) ← takeYear? text.toList
  let (month, rest) ← takePair? '-' rest
  let (day, rest) ← takePair? '-' rest
  let (hour, rest) ← takePair? ' ' rest
  let (minute, rest) ← takePair? ':' rest
  let (second, rest) ← takePair? ':' rest
  if rest.isEmpty then some ⟨year, month, day, hour, minute, second, 0⟩ else none

/-- The time of a reading without a fraction. Second 60 is the leap second after 59. -/
def ofBindingReading? (r : Reading) : Option Timestamp :=
  let date : Date := ⟨r.year, r.month, r.day⟩
  if date.InRange ∧ r.hour < 24 ∧ r.minute < 60 ∧ r.second ≤ 60 then
    some ⟨date.dayNumber * 86400 + r.hour * 3600 + r.minute * 60 + (min r.second 59 : Nat),
      if r.second = 60 then 1000000000 else 0⟩
  else none

/-- The time that a text with a date, a blank and a clock denotes, in any year. -/
def ofBindingText? (text : String) : Option Timestamp :=
  (bindingReading? text).bind ofBindingReading?

/-- The second that the text of a time names. A leap second counts on from the one it follows. -/
def writtenSecond (t : Timestamp) : Nat := t.secondOfDay % 60 + if t.isLeapSecond then 1 else 0

/-- The time down to the second as it is written. -/
def written (t : Timestamp) : Timestamp :=
  if t.writtenSecond = 60 then ⟨t.seconds, 1000000000⟩
  else if t.isLeapSecond then ⟨t.seconds + 1, 0⟩
  else ⟨t.seconds, 0⟩

theorem bindingText_toList (t : Timestamp) :
    t.bindingText.toList = (yearText t.date.year).toList ++ '-' ::
      ((Numeral.padded 2 t.date.month).toList ++ '-' ::
      ((Numeral.padded 2 t.date.day).toList ++ ' ' ::
      ((Numeral.padded 2 (t.secondOfDay / 3600)).toList ++ ':' ::
      ((Numeral.padded 2 (t.secondOfDay / 60 % 60)).toList ++ ':' ::
      ((Numeral.padded 2 t.writtenSecond).toList ++ []))))) := by
  simp [bindingText, dateText, clockText, writtenSecond]

theorem secondOfDay_lt (t : Timestamp) : t.secondOfDay < 86400 := by
  rw [secondOfDay]
  omega

theorem dayNumber_secondOfDay (t : Timestamp) :
    t.dayNumber * 86400 + t.secondOfDay = t.seconds := by
  rw [dayNumber, secondOfDay]
  omega

theorem writtenSecond_lt {t : Timestamp} (h : t.isLeapSecond = false) : t.writtenSecond < 60 := by
  simp only [writtenSecond, h, Bool.false_eq_true, if_false]
  omega

theorem written_of_not_leap {t : Timestamp} (h : t.isLeapSecond = false) :
    t.written = ⟨t.seconds, 0⟩ := by
  simp [written, Nat.ne_of_lt (writtenSecond_lt h), h]

theorem bindingReading?_bindingText (t : Timestamp) :
    bindingReading? t.bindingText = some ⟨t.date.year, t.date.month, t.date.day,
      t.secondOfDay / 3600, t.secondOfDay / 60 % 60, t.writtenSecond, 0⟩ := by
  obtain ⟨hrange, -⟩ := Date.ofDayNumber_spec t.dayNumber
  have hdate : t.date.InRange := hrange
  have hmonth : t.date.month < 100 := by
    have := hdate.2.1
    omega
  have hday : t.date.day < 100 := by
    have := hdate.2.2.2
    have := Calendar.monthLength_le t.date.year t.date.month
    omega
  have hof := t.secondOfDay_lt
  have hsecond : t.writtenSecond < 100 := by
    rw [writtenSecond]
    split <;> omega
  rw [bindingReading?, bindingText_toList t]
  simp only [bind, Option.bind, takeYear?_yearText, takePair?_padded hmonth, takePair?_padded hday,
    takePair?_padded (show t.secondOfDay / 3600 < 100 by omega),
    takePair?_padded (show t.secondOfDay / 60 % 60 < 100 by omega),
    takePair?_padded hsecond, List.isEmpty_nil, if_true]

theorem ofBindingText?_bindingText (t : Timestamp) :
    ofBindingText? t.bindingText = some t.written := by
  obtain ⟨hrange, hnumber⟩ := Date.ofDayNumber_spec t.dayNumber
  have hdate : (⟨t.date.year, t.date.month, t.date.day⟩ : Date).InRange := hrange
  have hdays : (⟨t.date.year, t.date.month, t.date.day⟩ : Date).dayNumber = t.dayNumber := hnumber
  have hof := t.secondOfDay_lt
  have hclock := t.dayNumber_secondOfDay
  have hhour : t.secondOfDay / 3600 < 24 := by omega
  have hminute : t.secondOfDay / 60 % 60 < 60 := by omega
  have hsecond : t.writtenSecond ≤ 60 := by
    rw [writtenSecond]
    split <;> omega
  rw [ofBindingText?, bindingReading?_bindingText]
  simp only [Option.bind_some, ofBindingReading?, hdate, hdays, hhour, hminute, hsecond, and_self,
    if_true, written, Option.some.injEq]
  cases hleap : t.isLeapSecond with
  | true =>
    have hnext : t.writtenSecond = t.secondOfDay % 60 + 1 := by simp [writtenSecond, hleap]
    split <;> simp only [mk.injEq, and_true, if_true] <;> omega
  | false =>
    have hsame : t.writtenSecond = t.secondOfDay % 60 := by simp [writtenSecond, hleap]
    have hbelow : t.writtenSecond ≠ 60 := by omega
    simp only [hbelow, if_false, Bool.false_eq_true, mk.injEq, and_true]
    omega

theorem ofBindingText?_of_not_leap {t : Timestamp} (h : t.isLeapSecond = false) :
    ofBindingText? t.bindingText = some ⟨t.seconds, 0⟩ := by
  rw [ofBindingText?_bindingText, written_of_not_leap h]

end SegmentRules.Timestamp
