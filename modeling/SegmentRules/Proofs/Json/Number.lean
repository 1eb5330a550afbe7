import SegmentRules.Json.Reader
import SegmentRules.Json.Writer
import SegmentRules.Proofs.Numeral
import SegmentRules.Proofs.Text.Parts

/-! # Numbers in JSON are read back

The texts of numbers are given by a grammar. Such a text is read as its parts wherever it stands, if
nothing behind it goes on with the number. Its value is an integer exactly if it is written as one
that fits 64 bits. -/
namespace SegmentRules.Json

open Numeral (IsWhole digits isDigit signChars value valueOnto)

/-! ## Grammar -/

inductive WritesFraction : Option (List Char) → List Char → Prop
  | none : WritesFraction none []
  | point {digits : List Char} (filled : digits ≠ []) (all : ∀ c ∈ digits, isDigit c = true) :
      WritesFraction (some digits) ('.' :: digits)

inductive WritesSign : Bool → List Char → Prop
  | none : WritesSign false []
  | plus : WritesSign false ['+']
  | minus : WritesSign true ['-']

inductive WritesExponent : Option (Bool × List Char) → List Char → Prop
  | none : WritesExponent none []
  | power {mark : Char} {isNegative : Bool} {sign digits : List Char}
      (marked : mark = 'e' ∨ mark = 'E') (signed : WritesSign isNegative sign)
      (filled : digits ≠ []) (all : ∀ c ∈ digits, isDigit c = true) :
      WritesExponent (some (isNegative, digits)) (mark :: (sign ++ digits))

/-- A sign, digits without leading zeros, a fraction and a power of ten. -/
inductive NumberText.Written : NumberText → List Char → Prop
  | parts {isNegative : Bool} {whole fractionText exponentText : List Char}
      {fraction : Option (List Char)} {exponent : Option (Bool × List Char)}
      (whole_digits : IsWhole whole) (fraction_written : WritesFraction fraction fractionText)
      (exponent_written : WritesExponent exponent exponentText) :
      Written ⟨isNegative, whole, fraction, exponent⟩
        (signChars isNegative ++ (whole ++ (fractionText ++ exponentText)))

/-- The characters a number may go on with. -/
def goesOn (c : Char) : Bool := isDigit c || c == '.' || c == 'e' || c == 'E'

/-- Nothing at the start of the text belongs to a number before it. -/
def EndsNumber (rest : List Char) : Prop := ∀ c, rest.head? = some c → goesOn c = false

theorem endsNumber_nil : EndsNumber [] := by
  intro c h
  cases h

theorem endsNumber_cons {c : Char} {rest : List Char} :
    EndsNumber (c :: rest) ↔ goesOn c = false := by
  simp [EndsNumber]

theorem not_goesOn {c : Char} (h : goesOn c = false) :
    isDigit c = false ∧ c ≠ '.' ∧ c ≠ 'e' ∧ c ≠ 'E' := by
  simpa [goesOn, and_assoc] using h

/-! ## Reading -/

variable {text rest : List Char} {number : NumberText}

theorem takeDigits?_append (filled : text ≠ []) (all : ∀ c ∈ text, isDigit c = true)
    (stop : ∀ c, rest.head? = some c → isDigit c = false) :
    takeDigits? (text ++ rest) = some (text, rest) := by
  have hspan := Numeral.span_isDigit all stop
  obtain ⟨c, tail, rfl⟩ := List.exists_cons_of_ne_nil filled
  rw [takeDigits?, hspan]

theorem readFraction?_append {fraction : Option (List Char)} (h : WritesFraction fraction text)
    (stop : ∀ c, rest.head? = some c → isDigit c = false ∧ c ≠ '.') :
    readFraction? (text ++ rest) = some (fraction, rest) := by
  cases h with
  | none =>
    cases rest with
    | nil => rfl
    | cons c rest => simp [readFraction?, (stop c rfl).2]
  | point filled all =>
    rw [List.cons_append, readFraction?, takeDigits?_append filled all fun c hc => (stop c hc).1]
    rfl

theorem exponentSign_append {isNegative : Bool} {sign : List Char} (h : WritesSign isNegative sign)
    (filled : text ≠ []) (all : ∀ c ∈ text, isDigit c = true) :
    exponentSign (sign ++ (text ++ rest)) = (isNegative, text ++ rest) := by
  cases h with
  | plus => rfl
  | minus => rfl
  | none =>
    obtain ⟨c, tail, rfl⟩ := List.exists_cons_of_ne_nil filled
    have hc := all c List.mem_cons_self
    have hplus : c ≠ '+' := ne_of_class hc (by decide)
    have hminus : c ≠ '-' := ne_of_class hc (by decide)
    simp [exponentSign, hplus, hminus]

theorem readExponent?_append {exponent : Option (Bool × List Char)}
    (h : WritesExponent exponent text) (hend : EndsNumber rest) :
    readExponent? (text ++ rest) = some (exponent, rest) := by
  cases h with
  | none =>
    cases rest with
    | nil => rfl
    | cons c rest =>
      obtain ⟨-, -, he, hE⟩ := not_goesOn (hend c rfl)
      simp [readExponent?, he, hE]
  | power marked signed filled all =>
    have hdigits : ∀ c, rest.head? = some c → isDigit c = false := by
      intro c hc
      exact (not_goesOn (hend c hc)).1
    rw [List.cons_append, List.append_assoc, readExponent?, if_pos marked]
    simp [exponentSign_append signed filled all, takeDigits?_append filled all hdigits]

theorem EndsNumber.exponent_append {exponent : Option (Bool × List Char)} (hend : EndsNumber rest)
    (h : WritesExponent exponent text) :
    ∀ c, (text ++ rest).head? = some c → isDigit c = false ∧ c ≠ '.' := by
  intro c hc
  cases h with
  | none =>
    obtain ⟨hdigit, hpoint, -⟩ := not_goesOn (hend c hc)
    exact ⟨hdigit, hpoint⟩
  | power marked =>
    obtain rfl := Option.some.inj hc
    rcases marked with rfl | rfl <;> decide

/-- The rest of a number behind its sign. -/
def NumberText.readUnsigned? (isNegative : Bool) (text : List Char) :
    Option (NumberText × List Char) := do
  let (whole, text) ← takeDigits? text
  if whole.head? = some '0' ∧ whole.length ≠ 1 then none
  let (fraction, text) ← readFraction? text
  let (exponent, text) ← readExponent? text
  return (⟨isNegative, whole, fraction, exponent⟩, text)

theorem NumberText.read?_signChars {whole : List Char} (h : IsWhole whole) (isNegative : Bool)
    (rest : List Char) :
    NumberText.read? (signChars isNegative ++ (whole ++ rest)) =
      readUnsigned? isNegative (whole ++ rest) := by
  obtain ⟨c, tail, rfl, hc⟩ := h.exists_cons
  have hminus : c ≠ '-' := ne_of_class hc (by decide)
  cases isNegative with
  | true => rfl
  | false =>
    rw [signChars, if_neg (by decide), List.nil_append, List.cons_append]
    unfold NumberText.read?
    split
    rename_i heq
    split at heq
    · rename_i hcons
      exact absurd (List.cons.inj hcons).1 hminus
    · obtain ⟨rfl, rfl⟩ := Prod.mk.inj heq
      rfl

/-- A number is read as its parts, if nothing behind it goes on with it. -/
theorem NumberText.read?_append (h : number.Written text) (hend : EndsNumber rest) :
    NumberText.read? (text ++ rest) = some (number, rest) := by
  cases h with
  | @parts isNegative whole fractionText exponentText fraction exponent hwhole hfraction
      hexponent =>
    have hbehind := hend.exponent_append hexponent
    have hstop : ∀ c, (fractionText ++ (exponentText ++ rest)).head? = some c →
        isDigit c = false := by
      intro c hc
      cases hfraction with
      | none => exact (hbehind c hc).1
      | point =>
        obtain rfl := Option.some.inj hc
        decide
    have hzero : ¬ (whole.head? = some '0' ∧ whole.length ≠ 1) := by
      rintro ⟨hstart, hlength⟩
      rw [hwhole.leading hstart] at hlength
      exact hlength rfl
    rw [List.append_assoc, List.append_assoc, List.append_assoc, read?_signChars hwhole,
      readUnsigned?, takeDigits?_append hwhole.filled hwhole.all hstop]
    simp [hzero, readFraction?_append hfraction hbehind, readExponent?_append hexponent hend]

/-- A text is written by the parts of one number only. -/
theorem NumberText.Written.unique {other : NumberText} (h : number.Written text)
    (h' : other.Written text) : number = other := by
  have hread := NumberText.read?_append h endsNumber_nil
  rw [NumberText.read?_append h' endsNumber_nil] at hread
  exact (Prod.mk.inj (Option.some.inj hread)).1.symm

/-! ## Values -/

theorem takeSignificand_of_lt {n taken : Nat} (h : valueOnto n text < UInt64.size) :
    takeSignificand n taken text = (valueOnto n text, taken + text.length, 0) := by
  induction text generalizing n taken with
  | nil => rfl
  | cons c rest ih =>
    have hgrows := Numeral.le_valueOnto (n * 10 + (Numeral.digit? c).getD 0) rest
    have hvalue : valueOnto n (c :: rest) =
        valueOnto (n * 10 + (Numeral.digit? c).getD 0) rest := rfl
    rw [hvalue] at h ⊢
    rw [takeSignificand, if_neg (by omega), ih h, List.length_cons]
    congr 2
    omega

theorem takeSignificand_of_le {n taken : Nat} (hn : n < UInt64.size)
    (h : UInt64.size ≤ valueOnto n text) : (takeSignificand n taken text).2.2 ≠ 0 := by
  induction text generalizing n taken with
  | nil =>
    have hsame : valueOnto n [] = n := rfl
    omega
  | cons c rest ih =>
    rw [takeSignificand]
    by_cases hnext : UInt64.size ≤ n * 10 + (Numeral.digit? c).getD 0
    · rw [if_pos hnext]
      exact Nat.succ_ne_zero _
    · rw [if_neg hnext]
      exact ih (Nat.lt_of_not_le hnext) h

/-- The integer that the sign and the digits of a number denote. -/
def NumberText.integer (number : NumberText) : Int :=
  if number.isNegative then -(value number.whole : Int) else value number.whole

theorem holdsInteger_iff {n : Int} : holdsInteger n = true ↔ -2 ^ 63 ≤ n ∧ n < 2 ^ 64 := by
  have hlow : Int64.minValue.toInt = -2 ^ 63 := by decide
  simp [holdsInteger, hlow, UInt64.size]

theorem NumberText.not_holdsInteger (h : UInt64.size ≤ value number.whole) :
    holdsInteger number.integer = false := by
  rw [← Bool.not_eq_true, holdsInteger_iff, integer]
  have hsize : UInt64.size = 2 ^ 64 := rfl
  split <;> omega

/-- A number without fraction and exponent is an integer if it fits, and else a double. -/
theorem NumberText.value?_whole (isNegative : Bool) (whole : List Char) :
    NumberText.value? ⟨isNegative, whole, none, none⟩ =
      if holdsInteger (integer ⟨isNegative, whole, none, none⟩) = true ∧
          (isNegative = true → integer ⟨isNegative, whole, none, none⟩ ≠ 0) then
        some (.integer (integer ⟨isNegative, whole, none, none⟩))
      else (double? ⟨isNegative, whole, none, none⟩ (takeSignificand 0 0 whole).1
        (takeSignificand 0 0 whole).2.2).map .double := by
  by_cases hfits : value whole < UInt64.size
  · have htake : takeSignificand 0 0 whole = (value whole, 0 + whole.length, 0) :=
      takeSignificand_of_lt hfits
    simp only [value?, htake, integer, true_and]
  · have hlarge := Nat.le_of_not_lt hfits
    have hdropped : (takeSignificand 0 0 whole).2.2 ≠ 0 :=
      takeSignificand_of_le (by decide) hlarge
    have hout : holdsInteger (integer ⟨isNegative, whole, none, none⟩) = false :=
      not_holdsInteger hlarge
    simp only [value?, hdropped, hout, Bool.false_eq_true, false_and, if_false]

/-- Exactly the integers of 64 bits that are written as such are integers; a zero with a minus sign
is none. -/
theorem NumberText.value?_eq_integer {n : Int} :
    number.value? = some (.integer n) ↔ (number.fraction = none ∧ number.exponent = none) ∧
      n = number.integer ∧ holdsInteger n = true ∧ (number.isNegative = true → n ≠ 0) := by
  obtain ⟨isNegative, whole, fraction, exponent⟩ := number
  cases fraction with
  | some digits => simp [value?]
  | none =>
    cases exponent with
    | some power => simp [value?]
    | none =>
      rw [value?_whole]
      split
      · rename_i h
        constructor
        · intro hsome
          obtain rfl := Json.integer.inj (Option.some.inj hsome)
          exact ⟨⟨rfl, rfl⟩, rfl, h⟩
        · rintro ⟨-, rfl, -⟩
          rfl
      · rename_i h
        constructor
        · intro hsome
          simp at hsome
        · rintro ⟨-, rfl, hfits⟩
          exact absurd hfits h

theorem NumberText.value?_cases {v : Json} (h : number.value? = some v) :
    (∃ n, v = .integer n) ∨ ∃ x, v = .double x := by
  have hdouble : ∀ x : Option Double, x.map Json.double = some v → ∃ x, v = .double x := by
    intro x hx
    obtain ⟨x, -, rfl⟩ := Option.map_eq_some_iff.mp hx
    exact ⟨x, rfl⟩
  obtain ⟨isNegative, whole, fraction, exponent⟩ := number
  cases fraction with
  | some digits => exact .inr (hdouble _ h)
  | none =>
    cases exponent with
    | some power => exact .inr (hdouble _ h)
    | none =>
      rw [value?_whole] at h
      split at h
      · exact .inl ⟨_, (Option.some.inj h).symm⟩
      · exact .inr (hdouble _ h)

/-! ## Written integers -/

theorem NumberText.written_integer (n : Int) :
    Written ⟨n < 0, digits 10 n.natAbs, none, none⟩ (Numeral.signed n).toList := by
  have hparts : Written ⟨n < 0, digits 10 n.natAbs, none, none⟩ _ :=
    .parts (Numeral.isWhole_digits n.natAbs) .none .none
  rwa [List.append_nil, List.append_nil, ← Numeral.signed_eq_signChars] at hparts

theorem NumberText.value?_digits {n : Int} (h : holdsInteger n = true) :
    NumberText.value? ⟨n < 0, digits 10 n.natAbs, none, none⟩ = some (.integer n) := by
  have hn : n = NumberText.integer ⟨n < 0, digits 10 n.natAbs, none, none⟩ := by
    rw [integer, Numeral.value_digits, Numeral.signChars_natAbs]
  refine value?_eq_integer.mpr ⟨⟨rfl, rfl⟩, hn, h, ?_⟩
  intro hsign hzero
  rw [hzero] at hsign
  cases hsign

/-- What is read as a positive integer is written as its digits. -/
theorem NumberText.Written.eq_digits {n : Nat} (h : number.Written text) (positive : n ≠ 0)
    (hvalue : number.value? = some (.integer n)) : text = digits 10 n := by
  obtain ⟨⟨hfraction, hexponent⟩, hinteger, -⟩ := value?_eq_integer.mp hvalue
  cases h with
  | @parts isNegative whole _ _ _ _ hwhole hfractionText hexponentText =>
    obtain rfl : _ = none := hfraction
    obtain rfl : _ = none := hexponent
    cases hfractionText
    cases hexponentText
    cases isNegative with
    | true =>
      have hnegative : (n : Int) = -(value whole : Int) := hinteger
      omega
    | false =>
      have hsame : (n : Int) = value whole := hinteger
      rw [Int.ofNat_inj.mp hsame, Numeral.digits_value hwhole]
      simp [signChars]

/-- The double that is read from a zero with a minus sign. -/
def minusZero : Double := Double.ofMagnitude true 0

def minusZeroText : NumberText := ⟨true, ['0'], some ['0'], none⟩

theorem NumberText.written_minusZero : minusZeroText.Written (renderDouble minusZero).toList := by
  have htext : (renderDouble minusZero).toList = ['-', '0', '.', '0'] := by decide +kernel
  rw [htext]
  have hzero : ∀ c ∈ ['0'], isDigit c = true := List.all_eq_true.mp (by decide)
  exact .parts (Numeral.isWhole_digits 0) (.point (by simp) hzero) .none

theorem NumberText.value?_minusZero : minusZeroText.value? = some (.double minusZero) := by
  have htake : takeSignificand 0 0 ['0'] = (0, 1, 0) := by decide
  have hdouble : minusZeroText.double? 0 ((0 : Nat) - (1 : Nat)) = some minusZero := by
    decide +kernel
  rw [minusZeroText] at hdouble ⊢
  simp only [value?, htake, Option.getD_some, hdouble, Option.map_some]

/-! ## Numbers among values -/

/-- What numbers start with. -/
def startsNumber (c : Char) : Bool := c == '-' || isDigit c

theorem NumberText.Written.head (h : number.Written text) :
    ∃ c tail, text = c :: tail ∧ startsNumber c = true := by
  cases h with
  | @parts isNegative whole fractionText exponentText fraction exponent hwhole =>
    obtain ⟨c, tail, rfl, hc⟩ := hwhole.exists_cons
    cases isNegative with
    | true => exact ⟨'-', _, rfl, rfl⟩
    | false => exact ⟨c, _, rfl, by simp [startsNumber, hc]⟩

theorem not_isSpace_of_startsNumber {c : Char} (h : startsNumber c = true) : isSpace c = false := by
  have hblank : c ≠ ' ' := ne_of_class h (by decide)
  have htab : c ≠ '\t' := ne_of_class h (by decide)
  have hline : c ≠ '\n' := ne_of_class h (by decide)
  have hreturn : c ≠ '\r' := ne_of_class h (by decide)
  simp [isSpace, hblank, htab, hline, hreturn]

theorem skipSpace_cons {c : Char} (h : isSpace c = false) (rest : List Char) :
    skipSpace (c :: rest) = c :: rest :=
  List.dropWhile_cons_of_neg (by simp [h])

/-- A number of a text is read as one value, which it denotes if it is not too large. -/
theorem readValue?_number (h : number.Written text) (hend : EndsNumber rest) (fuel depth : Nat) :
    readValue? (fuel + 1) depth (text ++ rest) = some (number.value?.getD .unreadable, rest) := by
  have hread := NumberText.read?_append h hend
  obtain ⟨c, tail, rfl, hc⟩ := h.head
  have hquote : c ≠ '"' := ne_of_class hc (by decide)
  have hbracket : c ≠ '[' := ne_of_class hc (by decide)
  have hbrace : c ≠ '\x7b' := ne_of_class hc (by decide)
  have hnull : c ≠ 'n' := ne_of_class hc (by decide)
  have htrue : c ≠ 't' := ne_of_class hc (by decide)
  have hfalse : c ≠ 'f' := ne_of_class hc (by decide)
  rw [List.cons_append] at hread ⊢
  rw [readValue?, skipSpace_cons (not_isSpace_of_startsNumber hc)]
  simp [hquote, hbracket, hbrace, hnull, htrue, hfalse, hread]

end SegmentRules.Json
