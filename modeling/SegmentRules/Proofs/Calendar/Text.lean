import SegmentRules.Proofs.Calendar.Binding
import SegmentRules.Proofs.Calendar.Successor
import SegmentRules.Proofs.Text.Trim

/-! # Times in documents are read back

A time that some text denotes is denoted by its own text. -/
namespace SegmentRules.Timestamp

open Calendar (Date)

/-- The date is one of the calendar, and a leap second stands at the end of a minute. -/
structure IsWritable (t : Timestamp) : Prop where
  valid : t.date.Valid
  nanos_lt : t.nanos < 2000000000
  leap : t.isLeapSecond = true → t.secondOfDay % 60 = 59

variable {t : Timestamp} {n : Nat} {mark : Char} {rest : List Char}

/-! ## Parts -/

theorem trimStart_digits {text : List Char} (filled : text ≠ [])
    (all : ∀ c ∈ text, Numeral.isDigit c = true) (rest : List Char) :
    Text.trimStart (text ++ rest) = text ++ rest := by
  obtain ⟨c, tail, rfl⟩ := List.exists_cons_of_ne_nil filled
  exact Text.trimStart_cons (Text.not_isBlank_of_isDigit (all c List.mem_cons_self)) _

theorem takePart?_padded (hmark : Text.isBlank mark = false) (h : n < 100)
    (stop : ∀ c, rest.head? = some c → Numeral.isDigit c = false) :
    takePart? mark (mark :: ((Numeral.padded 2 n).toList ++ rest)) = some (n, rest) := by
  have hall := Numeral.padded_all_isDigit 2 n
  have hfilled := Numeral.padded_ne_nil 2 n
  have hlength : (Numeral.padded 2 n).toList.length ≤ 2 :=
    Nat.le_of_eq (Numeral.padded_length (by decide) h)
  have hread := takeNumber?_digits hall hfilled hlength stop
  rw [Numeral.value_padded] at hread
  rw [takePart?, takeMark?, Text.trimStart_cons hmark]
  simp [trimStart_digits hfilled hall, hread]

theorem trimStart_yearText (year : Int) (rest : List Char) :
    Text.trimStart ((yearText year).toList ++ rest) = (yearText year).toList ++ rest := by
  have hdigits := trimStart_digits (Numeral.padded_ne_nil 4 year.natAbs)
    (Numeral.padded_all_isDigit 4 year.natAbs) rest
  unfold yearText
  split
  · exact hdigits
  · rw [String.toList_append]
    split
    · exact Text.trimStart_cons (by decide) _
    · exact Text.trimStart_cons (by decide) _

/-! ## Fractions -/

theorem takeFraction?_padded {width : Nat} (positive : 0 < width) (hwidth : width ≤ 9)
    (h : n < 10 ^ width) :
    takeFraction? (Numeral.padded width n).toList = some (n * 10 ^ (9 - width), []) := by
  have hlength := Numeral.padded_length positive h
  have htake : (Numeral.padded width n).toList.takeWhile Numeral.isDigit =
      (Numeral.padded width n).toList :=
    List.takeWhile_eq_self_iff.mpr (Numeral.padded_all_isDigit width n)
  have hkept : (Numeral.padded width n).toList.take 9 = (Numeral.padded width n).toList :=
    List.take_of_length_le (by omega)
  rw [takeFraction?, htake]
  split
  · rename_i hempty
    exact absurd hempty (Numeral.padded_ne_nil width n)
  · dsimp only
    rw [hkept, Numeral.value_padded, List.drop_length, hlength]
    rfl

theorem readFraction?_fractionText (h : n < 1000000000) :
    readFraction? (fractionText n).toList = some (n, []) := by
  have hread : ∀ {width m : Nat}, 0 < width → width ≤ 9 → m < 10 ^ width →
      m * 10 ^ (9 - width) = n →
      readFraction? ("." ++ Numeral.padded width m).toList = some (n, []) := by
    intro width m positive hwidth hm hsame
    have hpoint : ("." ++ Numeral.padded width m).toList = '.' :: (Numeral.padded width m).toList :=
      String.toList_append
    rw [hpoint, readFraction?, takeFraction?_padded positive hwidth hm, hsame]
  unfold fractionText
  split
  · rename_i hzero
    rw [hzero]
    rfl
  split
  · exact hread (by decide) (by decide) (by omega) (by omega)
  split
  · exact hread (by decide) (by decide) (by omega) (by omega)
  · exact hread (by decide) (by decide) h (by omega)

theorem fractionText_head (n : Nat) :
    ∀ c, (fractionText n).toList.head? = some c → Numeral.isDigit c = false := by
  have hpoint : ∀ digits c, ("." ++ digits).toList.head? = some c → Numeral.isDigit c = false := by
    intro digits c hc
    obtain rfl : '.' = c := by simpa using hc
    decide
  intro c hc
  unfold fractionText at hc
  split at hc
  · cases hc
  split at hc
  · exact hpoint _ c hc
  split at hc
  · exact hpoint _ c hc
  · exact hpoint _ c hc

theorem takeFraction?_lt {text : List Char} (h : takeFraction? text = some (n, rest)) :
    n < 1000000000 := by
  have hbound : ∀ kept : List Char, kept.length ≤ 9 →
      Numeral.value kept * 10 ^ (9 - kept.length) < 10 ^ 9 := by
    intro kept hlength
    calc Numeral.value kept * 10 ^ (9 - kept.length)
        < 10 ^ kept.length * 10 ^ (9 - kept.length) :=
          Nat.mul_lt_mul_of_pos_right (Numeral.value_lt kept) (Nat.pow_pos (by decide))
      _ = 10 ^ 9 := by rw [← Nat.pow_add, Nat.add_sub_of_le hlength]
  unfold takeFraction? at h
  split at h
  · cases h
  · obtain ⟨rfl, -⟩ := Prod.mk.inj (Option.some.inj h)
    exact hbound _ (List.length_take_le 9 _)

theorem readFraction?_lt {text : List Char} (h : readFraction? text = some (n, rest)) :
    n < 1000000000 := by
  unfold readFraction? at h
  split at h
  · exact takeFraction?_lt h
  · obtain ⟨rfl, -⟩ := Prod.mk.inj (Option.some.inj h)
    decide

/-! ## Times -/

theorem text_toList (t : Timestamp) :
    t.text.toList = (yearText t.date.year).toList ++ '-' ::
      ((Numeral.padded 2 t.date.month).toList ++ '-' ::
      ((Numeral.padded 2 t.date.day).toList ++ 'T' ::
      ((Numeral.padded 2 (t.secondOfDay / 3600)).toList ++ ':' ::
      ((Numeral.padded 2 (t.secondOfDay / 60 % 60)).toList ++ ':' ::
      ((Numeral.padded 2 t.writtenSecond).toList ++
      (fractionText (t.nanos % 1000000000)).toList))))) := by
  simp [text, dateText, clockText, writtenSecond]

def reading (t : Timestamp) : Reading :=
  ⟨t.date.year, t.date.month, t.date.day, t.secondOfDay / 3600, t.secondOfDay / 60 % 60,
    t.writtenSecond, t.nanos % 1000000000⟩

theorem ofText?_text_eq (t : Timestamp) : ofText? t.text = ofReading? t.reading := by
  obtain ⟨hrange, -⟩ := Date.ofDayNumber_spec t.dayNumber
  have hdate : t.date.InRange := hrange
  have hmonth : t.date.month < 100 := by
    have := hdate.2.1
    omega
  have hday : t.date.day < 100 := by
    have := hdate.2.2.2
    have := Calendar.monthLength_le t.date.year t.date.month
    omega
  have hof := t.secondOfDay_lt
  have hhour : t.secondOfDay / 3600 < 100 := by omega
  have hminute : t.secondOfDay / 60 % 60 < 100 := by omega
  have hsecond : t.writtenSecond < 100 := by
    rw [writtenSecond]
    split <;> omega
  have hnanos : t.nanos % 1000000000 < 1000000000 := Nat.mod_lt _ (by decide)
  have hstop : ∀ mark rest, Numeral.isDigit mark = false →
      ∀ c, (mark :: rest).head? = some c → Numeral.isDigit c = false := by
    intro mark rest hmark c hc
    obtain rfl : mark = c := by simpa using hc
    exact hmark
  have hblank : Text.isBlank '-' = false ∧ Text.isBlank 'T' = false ∧ Text.isBlank ':' = false := by
    decide
  rw [ofText?, text_toList, trimStart_yearText]
  simp only [bind, Option.bind, takeYear?_yearText,
    takePart?_padded hblank.1 hmonth (hstop '-' _ rfl),
    takePart?_padded hblank.1 hday (hstop 'T' _ rfl),
    takePart?_padded hblank.2.1 hhour (hstop ':' _ rfl),
    takePart?_padded hblank.2.2 hminute (hstop ':' _ rfl),
    takePart?_padded hblank.2.2 hsecond (fractionText_head _),
    readFraction?_fractionText hnanos]
  rfl

theorem ofText?_text (h : t.IsWritable) : ofText? t.text = some t := by
  obtain ⟨-, hnumber⟩ := Date.ofDayNumber_spec t.dayNumber
  have hdays : (⟨t.date.year, t.date.month, t.date.day⟩ : Date).dayNumber = t.dayNumber := hnumber
  have hvalid : (⟨t.date.year, t.date.month, t.date.day⟩ : Date).Valid := h.valid
  have hof := t.secondOfDay_lt
  have hclock := t.dayNumber_secondOfDay
  have hnanos := h.nanos_lt
  have hsecond : t.writtenSecond ≤ 60 := by
    rw [writtenSecond]
    split <;> omega
  have hhour : t.secondOfDay / 3600 < 24 := by omega
  have hminute : t.secondOfDay / 60 % 60 < 60 := by omega
  rw [ofText?_text_eq, reading]
  simp only [ofReading?, hvalid, hdays, hhour, hminute, hsecond, and_self, if_true,
    Option.some.injEq]
  show _ = Timestamp.mk t.seconds t.nanos
  rw [mk.injEq]
  cases hleap : t.isLeapSecond with
  | true =>
    have hlast := h.leap hleap
    have hnext : t.writtenSecond = 60 := by simp [writtenSecond, hleap, hlast]
    have hfraction : 1000000000 ≤ t.nanos := of_decide_eq_true hleap
    simp only [hnext, if_true]
    omega
  | false =>
    have hsame : t.writtenSecond = t.secondOfDay % 60 := by simp [writtenSecond, hleap]
    have hfraction : ¬ 1000000000 ≤ t.nanos := of_decide_eq_false hleap
    have hbelow : t.secondOfDay % 60 ≠ 60 := by omega
    simp only [hsame, hbelow, if_false]
    omega

theorem dayNumber_mk (day : Int) {clock : Nat} (h : clock < 86400) (nanos : Nat) :
    dayNumber ⟨day * 86400 + clock, nanos⟩ = day := by
  show (day * 86400 + clock) / 86400 = day
  omega

theorem secondOfDay_mk (day : Int) {clock : Nat} (h : clock < 86400) (nanos : Nat) :
    secondOfDay ⟨day * 86400 + clock, nanos⟩ = clock := by
  show ((day * 86400 + clock) % 86400).toNat = clock
  omega

theorem isWritable_of_ofReading? {r : Reading} (hnanos : r.nanos < 1000000000)
    (h : ofReading? r = some t) : t.IsWritable := by
  unfold ofReading? at h
  dsimp only at h
  split at h
  · rename_i hparts
    obtain ⟨hvalid, hhour, hminute, hsecond⟩ := hparts
    have hclock : r.hour * 3600 + r.minute * 60 + min r.second 59 < 86400 := by omega
    obtain rfl := Option.some.inj h
    refine ⟨?_, ?_, ?_⟩
    · obtain ⟨hrange, hnumber⟩ := Date.ofDayNumber_spec (Date.mk r.year r.month r.day).dayNumber
      have hdate := Date.eq_of_dayNumber hrange hvalid.2.2 hnumber
      rw [date, dayNumber_mk _ hclock, hdate]
      exact hvalid
    · show r.nanos + _ < _
      split <;> omega
    · intro hleap
      have hfraction : 1000000000 ≤ r.nanos + if r.second = 60 then 1000000000 else 0 :=
        of_decide_eq_true hleap
      have hsixty : r.second = 60 := by
        by_contra hother
        rw [if_neg hother] at hfraction
        omega
      rw [secondOfDay_mk _ hclock]
      omega
  · cases h

theorem isWritable_of_ofText? {text : String} (h : ofText? text = some t) : t.IsWritable := by
  simp only [ofText?, bind, Option.bind_eq_some_iff, Prod.exists] at h
  obtain ⟨year, _, -, month, _, -, day, _, -, hour, _, -, minute, _, -, second, _, -, nanos, _,
    hfraction, h⟩ := h
  split at h
  · exact isWritable_of_ofReading? (readFraction?_lt hfraction) h
  · cases h

end SegmentRules.Timestamp
