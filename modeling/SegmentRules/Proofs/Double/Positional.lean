import SegmentRules.Double.Reader
import SegmentRules.Double.Style
import SegmentRules.Proofs.Double.Shortest
import SegmentRules.Proofs.Numeral
import SegmentRules.Proofs.Text.Parts

/-! # Decimals with a point

A finite number in a style without powers of ten is written with digits on both sides of a point,
and these digits are rounded to the number again. -/
namespace SegmentRules.Double

open Numeral (IsWhole digits isDigit signChars value)

/-- Digits before and behind a point. -/
structure Positional (whole fraction : List Char) : Prop where
  whole : IsWhole whole
  filled : fraction ≠ []
  all : ∀ c ∈ fraction, isDigit c = true

theorem isDigit_zero : isDigit '0' = true := by decide

theorem positional_zero : Positional ['0'] ['0'] :=
  ⟨⟨List.cons_ne_nil _ _, by simp [isDigit_zero], fun _ => rfl⟩, List.cons_ne_nil _ _,
    by simp [isDigit_zero]⟩

theorem isDigit_of_mem_zeros {zeros : Nat} {c : Char} (h : c ∈ List.replicate zeros '0') :
    isDigit c = true := by
  rw [List.eq_of_mem_replicate h]
  exact isDigit_zero

theorem positional_of_whole {text : List Char} (zeros : Nat) (filled : text ≠ [])
    (all : ∀ c ∈ text, isDigit c = true) (leading : text.head? ≠ some '0') :
    Positional (text ++ List.replicate zeros '0') ['0'] := by
  refine ⟨⟨?_, ?_, ?_⟩, positional_zero.filled, positional_zero.all⟩
  · simp [filled]
  · intro c hc
    exact (List.mem_append.mp hc).elim (all c) isDigit_of_mem_zeros
  · intro hstart
    rw [List.head?_append_of_ne_nil _ filled] at hstart
    exact absurd hstart leading

/-- Digits are split by a point; zeros fill them up so that one stands before it. -/
theorem positional_of_split {text : List Char} {places : Nat} (positive : 0 < places)
    (all : ∀ c ∈ text, isDigit c = true) (leading : text.head? ≠ some '0') :
    let filled := List.replicate (places + 1 - text.length) '0' ++ text
    Positional (filled.take (filled.length - places)) (filled.drop (filled.length - places)) := by
  intro filled
  have hlength : filled.length = places + 1 - text.length + text.length := by
    rw [List.length_append, List.length_replicate]
  have hall : ∀ c ∈ filled, isDigit c = true := by
    intro c hc
    exact (List.mem_append.mp hc).elim isDigit_of_mem_zeros (all c)
  refine ⟨⟨?_, fun c hc => hall c (List.mem_of_mem_take hc), ?_⟩, ?_,
    fun c hc => hall c (List.mem_of_mem_drop hc)⟩
  · intro hnil
    have htake := congrArg List.length hnil
    rw [List.length_take, List.length_nil] at htake
    omega
  · intro hstart
    rw [List.head?_take, if_neg (by omega)] at hstart
    by_cases hlong : places < text.length
    · have hnone : places + 1 - text.length = 0 := by omega
      rw [show filled = text by simp [filled, hnone]] at hstart
      exact absurd hstart leading
    · have hone : filled.length - places = 1 := by omega
      obtain ⟨zeros, hzeros⟩ := Nat.exists_eq_add_of_lt (show text.length < places + 1 by omega)
      rw [hone, show filled = '0' :: (List.replicate zeros '0' ++ text) by
        simp [filled, List.replicate_succ, show places + 1 - text.length = zeros + 1 by omega]]
      rfl
  · intro hnil
    have hdrop := congrArg List.length hnil
    rw [List.length_drop, List.length_nil] at hdrop
    omega

theorem exists_positional {d : Decimal} (h : d.digits ≠ 0) (low : -400 ≤ d.exponent)
    (high : d.exponent < 400) : ∃ whole fraction,
      Positional whole fraction ∧ (positional true d).toList = whole ++ '.' :: fraction ∧
      ∀ isNegative, ofDecimal isNegative (value (whole ++ fraction)) (0 - fraction.length) =
        ofDecimal isNegative d.digits d.exponent := by
  have hdigits := Numeral.digits_all_isDigit d.digits
  have hfilled := Numeral.digits_ne_nil d.digits
  have hhead := Numeral.digits_head_ne h
  have hvalue := Numeral.value_digits d.digits
  by_cases hsign : 0 ≤ d.exponent
  · refine ⟨_, _, positional_of_whole d.exponent.toNat hfilled hdigits hhead, ?_,
      fun isNegative => ?_⟩
    · simp [positional, hsign]
    · have hexponent : (0 - (['0'].length : Nat) : Int) =
          d.exponent - (d.exponent.toNat + 1 : Nat) := by
        rw [List.length_singleton]
        omega
      rw [List.append_assoc, ← List.replicate_succ', Numeral.value_append_zeros, hvalue, hexponent]
      exact ofDecimal_shift h (by omega) high isNegative
  · have hplaces : 0 < (-d.exponent).toNat := by omega
    refine ⟨_, _, positional_of_split hplaces hdigits hhead, ?_, fun isNegative => ?_⟩
    · simp [positional, hsign]
    · rw [List.take_append_drop, Numeral.value_zeros, hvalue]
      congr 1
      simp only [List.length_drop, List.length_append, List.length_replicate]
      omega

/-- A style that writes every number without a power of ten and keeps the point. -/
structure Style.IsPositional (style : Style) : Prop where
  keepsPoint : style.keepsPoint = true
  low : style.lowest ≤ -400
  high : 324 ≤ style.highest

theorem isNegative_ofMagnitude {m : Nat} (h : m < 2 ^ 63) :
    (ofMagnitude false m).isNegative = false := by
  have hbits : m + 0 < 2 ^ 64 := by omega
  simp only [isNegative, ofMagnitude, Bool.false_eq_true, if_false,
    UInt64.toNat_ofNat_of_lt' hbits, Nat.pow_eq, decide_eq_false_iff_not]
  omega

theorem exists_unsignedText {style : Style} (placed : style.IsPositional) {x : Double}
    (finite : x.isFinite = true) : ∃ whole fraction, Positional whole fraction ∧
      (unsignedText style x).toList = whole ++ '.' :: fraction ∧
      ∀ isNegative, ofDecimal isNegative (value (whole ++ fraction)) (0 - fraction.length) =
        ofMagnitude isNegative x.magnitude := by
  have hfinite : x.magnitude < infinityBits := by simpa [isFinite] using finite
  have hsmall : x.magnitude < 2 ^ 63 := Nat.lt_trans hfinite (by decide)
  rw [unsignedText]
  by_cases hzero : x.isZero = true
  · have hmagnitude : x.magnitude = 0 := by simpa [isZero] using hzero
    refine ⟨['0'], ['0'], positional_zero, ?_, fun isNegative => ?_⟩
    · rw [if_pos hzero, placed.keepsPoint]
      rfl
    · rw [hmagnitude]
      rfl
  · have habsolute := magnitude_ofMagnitude hsmall false
    have hfinite' : (ofMagnitude false x.magnitude).isFinite = true := by
      rwa [isFinite, habsolute, ← isFinite]
    have hnonzero : (ofMagnitude false x.magnitude).isZero = false := by
      rw [isZero, habsolute, ← isZero]
      simpa using hzero
    obtain ⟨hdigits, hlow, hhigh, hread⟩ := shortest_reads style.tie hfinite'
      (isNegative_ofMagnitude hsmall) hnonzero
    have hless := lt_of_isFinite hfinite' hdigits hlow hhigh (hread false)
    rw [if_neg hzero]
    dsimp only
    generalize shortest style.tie (ofMagnitude false x.magnitude) = d
      at hdigits hlow hhigh hread hless ⊢
    have hpower : d.exponent + ((digits 10 d.digits).length - 1 : Nat) < 324 := by
      have hten := Nat.lt_of_le_of_lt
        (Nat.mul_le_mul_right (10 ^ d.exponent.toNat) (Numeral.pow_le_of_digits hdigits)) hless
      rw [← Nat.pow_add] at hten
      have hexponents := (Nat.pow_lt_pow_iff_right (by decide)).mp hten
      omega
    have hplaced : style.lowest ≤ d.exponent + ((digits 10 d.digits).length - 1 : Nat) ∧
        d.exponent + ((digits 10 d.digits).length - 1 : Nat) ≤ style.highest := by
      have hlowest := placed.low
      have hhighest := placed.high
      omega
    rw [if_pos hplaced, placed.keepsPoint]
    obtain ⟨whole, fraction, hpositional, htext, hvalue⟩ := exists_positional hdigits hlow hhigh
    refine ⟨whole, fraction, hpositional, htext, fun isNegative => ?_⟩
    rw [hvalue, hread, habsolute]

theorem isNaN_of_isFinite {x : Double} (finite : x.isFinite = true) : x.isNaN = false := by
  simp only [isFinite, isNaN, decide_eq_true_eq, decide_eq_false_iff_not] at finite ⊢
  omega

theorem isInfinite_of_isFinite {x : Double} (finite : x.isFinite = true) :
    x.isInfinite = false := by
  simp only [isFinite, isInfinite, decide_eq_true_eq, beq_eq_false_iff_ne] at finite ⊢
  omega

theorem text_of_isFinite {x : Double} (finite : x.isFinite = true) (style : Style) :
    (text style x).toList =
      (if x.isNegative then ['-'] else []) ++ (unsignedText style x).toList := by
  rw [text, isNaN_of_isFinite finite, isInfinite_of_isFinite finite]
  cases x.isNegative <;> simp

theorem exists_text {style : Style} (placed : style.IsPositional) {x : Double}
    (finite : x.isFinite = true) : ∃ whole fraction, Positional whole fraction ∧
      (text style x).toList = signChars x.isNegative ++ (whole ++ '.' :: fraction) ∧
      ofDecimal x.isNegative (value (whole ++ fraction)) (0 - fraction.length) = x := by
  obtain ⟨whole, fraction, hpositional, htext, hvalue⟩ := exists_unsignedText placed finite
  refine ⟨whole, fraction, hpositional, ?_, ?_⟩
  · rw [text_of_isFinite finite, htext, signChars]
  · rw [hvalue, ofMagnitude_self]

/-! ## Reading -/

theorem sign_append {whole : List Char} (h : IsWhole whole) (isNegative : Bool)
    (rest : List Char) :
    sign (signChars isNegative ++ (whole ++ rest)) = (isNegative, whole ++ rest) := by
  obtain ⟨c, tail, rfl, hc⟩ := h.exists_cons
  cases isNegative with
  | true => rfl
  | false =>
    rw [signChars, if_neg (by decide), List.nil_append, List.cons_append]
    unfold sign
    split
    · rename_i heq
      exact absurd (List.cons.inj heq).1 (ne_of_class hc (by decide))
    · rename_i heq
      exact absurd (List.cons.inj heq).1 (ne_of_class hc (by decide))
    · rfl

/-- No name of a number has a point. -/
theorem ne_name {text : List Char} (point : '.' ∈ text) {name : String}
    (pointless : '.' ∉ name.toList) : String.ofList (text.map Char.toLower) ≠ name := by
  rintro rfl
  rw [String.toList_ofList] at pointless
  exact pointless (List.mem_map.mpr ⟨'.', point, rfl⟩)

theorem unsigned?_point {whole fraction : List Char} (h : Positional whole fraction)
    (isNegative : Bool) : unsigned? isNegative (whole ++ '.' :: fraction) =
      some (ofDecimal isNegative (value (whole ++ fraction)) (0 - fraction.length)) := by
  have hpoint : '.' ∈ whole ++ '.' :: fraction := by simp
  have hinf := ne_name hpoint (show '.' ∉ "inf".toList by decide)
  have hinfinity := ne_name hpoint (show '.' ∉ "infinity".toList by decide)
  have hnan := ne_name hpoint (show '.' ∉ "nan".toList by decide)
  have hwhole : (whole ++ '.' :: fraction).span isDigit = (whole, '.' :: fraction) :=
    Numeral.span_isDigit h.whole.all (by simp; decide)
  have hfraction : pointDigits ('.' :: fraction) = (fraction, []) := by
    have hspan : (fraction ++ []).span isDigit = (fraction, []) :=
      Numeral.span_isDigit h.all (by simp)
    rwa [List.append_nil] at hspan
  have hdigits : (whole.isEmpty && fraction.isEmpty) = false := by
    simp [h.filled]
  rw [unsigned?]
  dsimp only
  rw [if_neg (not_or.mpr ⟨hinf, hinfinity⟩), if_neg hnan, hwhole]
  dsimp only
  rw [hfraction, hdigits]
  rfl

theorem read_text {style : Style} (placed : style.IsPositional) {x : Double}
    (finite : x.isFinite = true) : read (text style x).toList = .ok x := by
  obtain ⟨whole, fraction, hpositional, hchars, hvalue⟩ := exists_text placed finite
  have hfilled : (signChars x.isNegative ++ (whole ++ '.' :: fraction)).isEmpty = false := by
    simp
  rw [hchars, read, hfilled, sign_append hpositional.whole]
  dsimp only
  rw [unsigned?_point hpositional, hvalue]
  rfl

end SegmentRules.Double
