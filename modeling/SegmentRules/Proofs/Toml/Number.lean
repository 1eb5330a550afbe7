import SegmentRules.Proofs.Double.Positional
import SegmentRules.Proofs.Toml.Lines

/-! # Numbers are read back

A number starts like a date or a time may start, and it is neither, for no dash and no colon stands
behind its digits. -/
namespace SegmentRules.Toml

open Numeral (IsWhole digits isDigit signChars takeExact? value)

/-! ## Runs of digits -/

theorem digitRun?_append {text : List Char} (filled : text ≠ [])
    (all : ∀ c ∈ text, isDigit c = true) (stop : Char) (hstop : isDigit stop = false)
    (single : stop ≠ '_') (rest : List Char) :
    digitRun? isDigit (text ++ stop :: rest) = some (text, stop :: rest) := by
  have hunderscore : isDigit '_' = false := by decide
  induction text with
  | nil => exact absurd rfl filled
  | cons c text ih =>
    obtain ⟨hc, htext⟩ := List.forall_mem_cons.mp all
    cases text with
    | nil => simp [digitRun?, hc, hstop]
    | cons next text =>
      have hrest := ih (List.cons_ne_nil _ _) htext
      have hnext : isDigit next = true := htext next List.mem_cons_self
      have hne : next ≠ '_' := ne_of_class hnext hunderscore
      rw [List.cons_append, List.cons_append, digitRun?]
      · rw [← List.cons_append, hrest]
        simp [hc, hnext]
      · exact hne

theorem wholeDigits?_append {whole : List Char} (h : IsWhole whole) (stop : Char)
    (hstop : isDigit stop = false) (single : stop ≠ '_') (rest : List Char) :
    wholeDigits? (whole ++ stop :: rest) = some (whole, stop :: rest) := by
  have hrun := digitRun?_append h.filled h.all stop hstop single rest
  unfold wholeDigits?
  split
  · rename_i heq
    have hzero : whole.head? = some '0' := by
      rw [← List.head?_append_of_ne_nil whole h.filled, heq]
      rfl
    rw [h.leading hzero] at heq ⊢
    obtain ⟨-, rfl⟩ := List.cons.inj heq
    rfl
  · exact hrun

/-! ## Neither dates nor times -/

theorem takeExact?_of_not_isDigit {c : Char} (h : isDigit c = false) (count : Nat)
    (positive : 0 < count) (rest : List Char) : takeExact? count (c :: rest) = none := by
  obtain ⟨count, rfl⟩ := Nat.exists_eq_add_one_of_ne_zero (Nat.ne_of_gt positive)
  simp [takeExact?, h]

/-- Behind some digits of a number stands another one of them, or what stands behind them all. -/
theorem takeExact?_append {text : List Char} (all : ∀ c ∈ text, isDigit c = true) {stop : Char}
    (hstop : isDigit stop = false) {count n : Nat} {behind rest : List Char}
    (h : takeExact? count (text ++ stop :: rest) = some (n, behind)) :
    ∃ c tail, behind = c :: tail ∧ (isDigit c = true ∨ c = stop) := by
  simp only [takeExact?] at h
  split at h
  · rename_i hdigits
    obtain ⟨-, rfl⟩ := Prod.mk.inj (Option.some.inj h)
    obtain ⟨hlength, hall⟩ := hdigits
    by_cases hfew : count ≤ text.length
    · rw [List.drop_append_of_le_length hfew]
      cases hdrop : text.drop count with
      | nil => exact ⟨stop, rest, rfl, .inr rfl⟩
      | cons c tail =>
        have hc : c ∈ text := List.mem_of_mem_drop (hdrop ▸ List.mem_cons_self)
        exact ⟨c, tail ++ stop :: rest, rfl, .inl (all c hc)⟩
    · -- More characters would take in the one that is no digit.
      have hmem : stop ∈ (text ++ stop :: rest).take count := by
        rw [List.take_append, List.mem_append]
        right
        obtain ⟨more, hmore⟩ := Nat.exists_eq_add_of_lt (Nat.lt_of_not_le hfew)
        rw [show count - text.length = more + 1 by omega, List.take_succ_cons]
        exact List.mem_cons_self
      have hdigit := List.all_eq_true.mp hall stop hmem
      rw [hstop] at hdigit
      cases hdigit
  · cases h

theorem pair?_of_ne {mark c : Char} (h : c ≠ mark) (rest : List Char) :
    pair? mark (c :: rest) = none :=
  if_neg h

theorem moment?_append {text : List Char} (all : ∀ c ∈ text, isDigit c = true) {stop : Char}
    (hstop : isDigit stop = false) (dash : stop ≠ '-') (colon : stop ≠ ':') (rest : List Char) :
    moment? (text ++ stop :: rest) = none := by
  have hdash : isDigit '-' = false := by decide
  have hcolon : isDigit ':' = false := by decide
  have hdate : date? (text ++ stop :: rest) = none := by
    rw [date?]
    cases htake : takeExact? 4 (text ++ stop :: rest) with
    | none => rfl
    | some result =>
      obtain ⟨c, tail, hbehind, hc⟩ := takeExact?_append all hstop htake
      have hne : c ≠ '-' := hc.elim (ne_of_class · hdash) (· ▸ dash)
      simp [hbehind, pair?_of_ne hne]
  have htime : time? (text ++ stop :: rest) = none := by
    rw [time?]
    cases htake : takeExact? 2 (text ++ stop :: rest) with
    | none => rfl
    | some result =>
      obtain ⟨c, tail, hbehind, hc⟩ := takeExact?_append all hstop htake
      have hne : c ≠ ':' := hc.elim (ne_of_class · hcolon) (· ▸ colon)
      simp [hbehind, pair?_of_ne hne]
  rw [moment?, hdate, htime]
  rfl

theorem moment?_of_not_isDigit {c : Char} (h : isDigit c = false) (rest : List Char) :
    moment? (c :: rest) = none := by
  have hyear := takeExact?_of_not_isDigit h 4 (by decide) rest
  have hhour := takeExact?_of_not_isDigit h 2 (by decide) rest
  rw [moment?, date?, hyear, time?, hhour]
  rfl

/-! ## Numbers -/

theorem number?_of_ne {c d : Char} (hx : d ≠ 'x') (ho : d ≠ 'o') (hb : d ≠ 'b')
    (rest : List Char) : number? (c :: d :: rest) = decimal? (c :: d :: rest) := by
  unfold number?
  split
  · rename_i heq
    exact absurd (List.cons.inj (List.cons.inj heq).2).1 hx
  · rename_i heq
    exact absurd (List.cons.inj (List.cons.inj heq).2).1 ho
  · rename_i heq
    exact absurd (List.cons.inj (List.cons.inj heq).2).1 hb
  · rfl

/-- The digits of a number stand for no base of their own. -/
theorem number?_append {whole : List Char} (h : IsWhole whole) (isNegative : Bool) {stop : Char}
    (hstop : stop = '.' ∨ stop = '\n') (rest : List Char) :
    number? (signChars isNegative ++ (whole ++ stop :: rest)) =
      decimal? (signChars isNegative ++ (whole ++ stop :: rest)) := by
  have hbase : ∀ d, isDigit d = true ∨ d = stop → d ≠ 'x' ∧ d ≠ 'o' ∧ d ≠ 'b' := by
    rintro d (hd | rfl)
    · exact ⟨ne_of_class hd (by decide), ne_of_class hd (by decide), ne_of_class hd (by decide)⟩
    · rcases hstop with rfl | rfl <;> decide
  obtain ⟨c, tail, rfl, hc⟩ := h.exists_cons
  cases isNegative with
  | true =>
    obtain ⟨hx, ho, hb⟩ := hbase c (.inl hc)
    exact number?_of_ne hx ho hb _
  | false =>
    cases tail with
    | nil =>
      obtain ⟨hx, ho, hb⟩ := hbase stop (.inr rfl)
      exact number?_of_ne hx ho hb _
    | cons d tail =>
      obtain ⟨hx, ho, hb⟩ := hbase d (.inl (h.all d (by simp)))
      exact number?_of_ne hx ho hb _

theorem decimal?_whole {whole : List Char} (h : IsWhole whole) (isNegative : Bool)
    (rest : List Char) :
    decimal? (signChars isNegative ++ (whole ++ '\n' :: rest)) =
      (integer? (if isNegative then -(value whole : Int) else value whole)).map
        fun value => (value, '\n' :: rest) := by
  have hread := wholeDigits?_append h '\n' (by decide) (by decide) rest
  obtain ⟨c, tail, rfl, hc⟩ := h.exists_cons
  rw [decimal?, Double.sign_append h]
  dsimp only
  split
  · rename_i heq
    exact absurd (List.cons.inj heq).1 (ne_of_class hc (by decide))
  · rename_i heq
    exact absurd (List.cons.inj heq).1 (ne_of_class hc (by decide))
  · rw [hread]
    cases hinteger : integer?
      (if isNegative then -(value (c :: tail) : Int) else value (c :: tail)) with
    | none => simp [hinteger]
    | some n => simp [hinteger]

theorem decimal?_point {whole fraction : List Char} (h : Double.Positional whole fraction)
    (isNegative : Bool) (rest : List Char) :
    decimal? (signChars isNegative ++ (whole ++ '.' :: (fraction ++ '\n' :: rest))) =
      (float? isNegative whole fraction 0).map fun value => (value, '\n' :: rest) := by
  have hwhole := wholeDigits?_append h.whole '.' (by decide) (by decide)
    (fraction ++ '\n' :: rest)
  have hfraction := digitRun?_append h.filled h.all '\n' (by decide) (by decide) rest
  have hpower : power? ('\n' :: rest) = some (0, '\n' :: rest) := rfl
  obtain ⟨c, tail, rfl, hc⟩ := h.whole.exists_cons
  rw [decimal?, Double.sign_append h.whole]
  dsimp only
  split
  · rename_i heq
    exact absurd (List.cons.inj heq).1 (ne_of_class hc (by decide))
  · rename_i heq
    exact absurd (List.cons.inj heq).1 (ne_of_class hc (by decide))
  · rw [hwhole]
    cases hfloat : float? isNegative (c :: tail) fraction 0 with
    | none => simp [hfraction, hpower, hfloat]
    | some x => simp [hfraction, hpower, hfloat]

/-! ## Values at the end of a line -/

theorem skipBlanks_space (rest : List Char) : skipBlanks (' ' :: rest) = skipBlanks rest := rfl

theorem isRead_string (text : String) : Value.IsRead (.string text) := by
  intro fuel rest
  have hread := string?_stringText text rest
  have hhead := stringText_head text
  have htext : (Value.string text).text = stringText text := by rw [Value.text]
  rw [htext, skipBlanks_space]
  have hfilled : (stringText text).toList ≠ [] := by
    rintro hnil
    simp [hnil] at hhead
  obtain ⟨quote, tail, htail⟩ := List.exists_cons_of_ne_nil hfilled
  rw [htail] at hread hhead ⊢
  have hquote : quote = '"' ∨ quote = '\'' := by simpa using hhead
  have hblank : isBlank quote = false := by rcases hquote with rfl | rfl <;> rfl
  rw [List.cons_append] at hread ⊢
  rw [skipBlanks_cons hblank, value?, if_pos hquote, hread, Option.map_some]
  dsimp only
  rw [String.ofList_toList]

/-- What starts with a digit or a dash is a number if it is no date and no time. -/
theorem value?_number {text : List Char}
    (start : ∃ c tail, text = c :: tail ∧ (isDigit c = true ∨ c = '-'))
    (hmoment : moment? text = none) (fuel : Nat) :
    value? (fuel + 1) 0 (skipBlanks (' ' :: text)) = number? text := by
  obtain ⟨c, tail, rfl, hc⟩ := start
  have hne : ∀ other, isDigit other = false → other ≠ '-' → c ≠ other := by
    intro other hother hdash
    exact hc.elim (ne_of_class · hother) (· ▸ hdash.symm)
  have hspace := hne ' ' (by decide) (by decide)
  have htab := hne '\t' (by decide) (by decide)
  have hquote := hne '"' (by decide) (by decide)
  have happostrophe := hne '\'' (by decide) (by decide)
  have hbracket := hne '[' (by decide) (by decide)
  have hbrace := hne '\x7b' (by decide) (by decide)
  have htrue := hne 't' (by decide) (by decide)
  have hfalse := hne 'f' (by decide) (by decide)
  rw [skipBlanks_space, skipBlanks_cons (by simp [isBlank, hspace, htab]), value?]
  simp [hquote, happostrophe, hbracket, hbrace, htrue, hfalse, hmoment]

theorem value?_signed {whole : List Char} (h : IsWhole whole) (isNegative : Bool) {stop : Char}
    (hstop : stop = '.' ∨ stop = '\n') (fuel : Nat) (rest : List Char) :
    value? (fuel + 1) 0 (skipBlanks (' ' :: (signChars isNegative ++ (whole ++ stop :: rest)))) =
      decimal? (signChars isNegative ++ (whole ++ stop :: rest)) := by
  have hstop' : isDigit stop = false ∧ stop ≠ '-' ∧ stop ≠ ':' := by
    rcases hstop with rfl | rfl <;> decide
  obtain ⟨hdigit, hdash, hcolon⟩ := hstop'
  have hmoment : moment? (signChars isNegative ++ (whole ++ stop :: rest)) = none := by
    cases isNegative with
    | true => exact moment?_of_not_isDigit (by decide) _
    | false => exact moment?_append h.all hdigit hdash hcolon rest
  rw [value?_number ?_ hmoment, number?_append h isNegative hstop]
  obtain ⟨c, tail, rfl, hc⟩ := h.exists_cons
  cases isNegative with
  | true => exact ⟨_, _, rfl, .inr rfl⟩
  | false => exact ⟨_, _, rfl, .inl hc⟩

theorem isRead_integer {n : Int} (low : Int64.minValue.toInt ≤ n)
    (high : n ≤ Int64.maxValue.toInt) :
    Value.IsRead (.integer n) := by
  intro fuel rest
  have htext : (Value.integer n).text.toList = signChars (n < 0) ++ digits 10 n.natAbs := by
    rw [Value.text, Numeral.signed_eq_signChars]
  have hwhole := Numeral.isWhole_digits n.natAbs
  rw [htext, List.append_assoc, value?_signed hwhole _ (.inr rfl), decimal?_whole hwhole,
    Numeral.value_digits, Numeral.signChars_natAbs, integer?, if_pos ⟨low, high⟩, Option.map_some]

theorem floatStyle_isPositional : floatStyle.IsPositional where
  keepsPoint := rfl
  low := by decide
  high := by decide

theorem isRead_float {x : Double} (finite : x.isFinite = true) : Value.IsRead (.float x) := by
  intro fuel rest
  obtain ⟨whole, fraction, hpositional, htext, hvalue⟩ :=
    Double.exists_text floatStyle_isPositional finite
  have hchars : (Value.float x).text.toList =
      signChars x.isNegative ++ (whole ++ '.' :: fraction) := by
    rw [Value.text, htext]
  have hnumber : float? x.isNegative whole fraction 0 = some (.float x) := by
    rw [float?]
    simp only [hvalue, Double.isInfinite_of_isFinite finite]
    rfl
  rw [hchars, List.append_assoc, List.append_assoc, List.cons_append,
    value?_signed hpositional.whole _ (.inl rfl), decimal?_point hpositional, hnumber,
    Option.map_some]

end SegmentRules.Toml
