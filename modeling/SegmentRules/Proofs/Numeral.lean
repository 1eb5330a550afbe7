import Mathlib
import SegmentRules.Calendar.Timestamp

/-! # Written numbers are read back -/
namespace SegmentRules.Numeral

theorem digit?_digitChar {d : Nat} (h : d < 10) : digit? (digitChar d) = some d := by
  have hall : ∀ d < 10, digit? (digitChar d) = some d := by decide
  exact hall d h

theorem isDigit_digitChar {d : Nat} (h : d < 10) : isDigit (digitChar d) = true := by
  rw [isDigit, digit?_digitChar h, Option.isSome_some]

/-! ## Digits one by one -/

section Digits

variable {base : Nat}

private theorem digitsOnto_tail (bound n : Nat) (tail : List Char) :
    digitsOnto base bound n tail = digitsOnto base bound n [] ++ tail := by
  induction bound generalizing n tail with
  | zero => rfl
  | succ bound ih =>
    simp only [digitsOnto]
    split
    · rfl
    · rw [ih _ (_ :: tail), ih _ [_]]
      simp

private theorem digitsOnto_bound (hbase : 1 < base) {bound other n : Nat} (h : n < bound)
    (h' : n < other) (tail : List Char) :
    digitsOnto base bound n tail = digitsOnto base other n tail := by
  induction bound generalizing other n tail with
  | zero => omega
  | succ bound ih =>
    obtain ⟨other, rfl⟩ : ∃ k, other = k + 1 := ⟨other - 1, by omega⟩
    simp only [digitsOnto]
    split
    · rfl
    · have hless : n / base < n := Nat.div_lt_self (by omega) hbase
      exact ih (by omega) (by omega) _

theorem digits_of_lt {n : Nat} (h : n < base) : digits base n = [digitChar n] := by
  simp [digits, digitsOnto, h, Nat.mod_eq_of_lt h]

theorem digits_of_le (hbase : 1 < base) {n : Nat} (h : base ≤ n) :
    digits base n = digits base (n / base) ++ [digitChar (n % base)] := by
  have hless : n / base < n := Nat.div_lt_self (by omega) hbase
  rw [digits, digitsOnto, if_neg (by omega), digitsOnto_tail, digits,
    digitsOnto_bound hbase hless (Nat.lt_succ_self _) []]

end Digits

theorem value_append_digit (text : List Char) {d : Nat} (h : d < 10) :
    value (text ++ [digitChar d]) = value text * 10 + d := by
  simp [value, digit?_digitChar h]

theorem value_digits (n : Nat) : value (digits 10 n) = n := by
  induction n using Nat.strong_induction_on with
  | _ n ih =>
    by_cases h : n < 10
    · rw [digits_of_lt h]
      simpa [value] using value_append_digit [] h
    · have hlast : n % 10 < 10 := Nat.mod_lt n (by omega)
      rw [digits_of_le (by omega) (by omega), value_append_digit _ hlast, ih (n / 10) (by omega)]
      omega

theorem digits_all_isDigit (n : Nat) : ∀ c ∈ digits 10 n, isDigit c = true := by
  induction n using Nat.strong_induction_on with
  | _ n ih =>
    by_cases h : n < 10
    · simp [digits_of_lt h, isDigit_digitChar h]
    · have hlast : n % 10 < 10 := Nat.mod_lt n (by omega)
      rw [digits_of_le (by omega) (by omega)]
      intro c hc
      rcases List.mem_append.mp hc with hc | hc
      · exact ih (n / 10) (by omega) c hc
      · rw [List.mem_singleton.mp hc]
        exact isDigit_digitChar hlast

theorem digits_length_le {n width : Nat} (hwidth : 0 < width) (h : n < 10 ^ width) :
    (digits 10 n).length ≤ width := by
  induction width generalizing n with
  | zero => omega
  | succ width ih =>
    by_cases hone : n < 10
    · simp [digits_of_lt hone]
    · have hpos : 0 < width := by
        rcases Nat.eq_zero_or_pos width with rfl | hpos
        · omega
        · exact hpos
      have hfewer : n / 10 < 10 ^ width := by
        rw [Nat.pow_succ] at h
        omega
      rw [digits_of_le (by omega) (by omega), List.length_append, List.length_singleton]
      have := ih hpos hfewer
      omega

theorem digits_ne_nil (n : Nat) : digits 10 n ≠ [] := by
  by_cases h : n < 10
  · simp [digits_of_lt h]
  · simp [digits_of_le (by omega : 1 < 10) (by omega : 10 ≤ n)]

theorem pow_le_of_digits {n : Nat} (h : n ≠ 0) : 10 ^ ((digits 10 n).length - 1) ≤ n := by
  induction n using Nat.strong_induction_on with
  | _ n ih =>
    by_cases hone : n < 10
    · rw [digits_of_lt hone, List.length_singleton, Nat.sub_self, Nat.pow_zero]
      exact Nat.pos_of_ne_zero h
    · have hfewer := ih (n / 10) (by omega) (by omega)
      have hlength : 0 < (digits 10 (n / 10)).length := List.length_pos_of_ne_nil (digits_ne_nil _)
      rw [digits_of_le (by omega) (by omega), List.length_append, List.length_singleton,
        Nat.add_sub_cancel]
      obtain ⟨width, hwidth⟩ := Nat.exists_eq_add_of_lt hlength
      rw [Nat.zero_add] at hwidth
      rw [hwidth, Nat.add_sub_cancel] at hfewer
      rw [hwidth, Nat.pow_succ]
      omega

/-- No zero stands before other digits. -/
theorem digits_head_ne {n : Nat} (h : n ≠ 0) : (digits 10 n).head? ≠ some '0' := by
  have hdigit : ∀ d < 10, d ≠ 0 → digitChar d ≠ '0' := by decide
  induction n using Nat.strong_induction_on with
  | _ n ih =>
    by_cases hone : n < 10
    · rw [digits_of_lt hone]
      simpa using hdigit n hone h
    · have hfirst := ih (n / 10) (by omega) (by omega)
      rw [digits_of_le (by omega) (by omega), List.head?_append_of_ne_nil _ (digits_ne_nil _)]
      exact hfirst

/-- Digits of which none is a zero before others. -/
structure IsWhole (text : List Char) : Prop where
  filled : text ≠ []
  all : ∀ c ∈ text, isDigit c = true
  leading : text.head? = some '0' → text = ['0']

theorem isWhole_digits (n : Nat) : IsWhole (digits 10 n) where
  filled := digits_ne_nil n
  all := digits_all_isDigit n
  leading := by
    intro hstart
    by_cases h : n = 0
    · subst h
      rfl
    · exact absurd hstart (digits_head_ne h)

theorem digitChar_of_digit? {c : Char} {d : Nat} (h : digit? c = some d) :
    d < 10 ∧ digitChar d = c := by
  unfold digit? at h
  split at h
  · rename_i hrange
    obtain ⟨hlow, hhigh⟩ := hrange
    have hlow' : 48 ≤ c.toNat := UInt32.le_iff_toNat_le.mp hlow
    have hhigh' : c.toNat ≤ 57 := UInt32.le_iff_toNat_le.mp hhigh
    obtain rfl := Option.some.inj h
    have hdigit : c.toNat - 48 < 10 := by omega
    have hchar : 48 + (c.toNat - 48) = c.toNat := by omega
    refine ⟨hdigit, ?_⟩
    rw [digitChar, if_pos hdigit, hchar, Char.ofNat_toNat]
  · cases h

theorem IsWhole.exists_cons {text : List Char} (h : IsWhole text) :
    ∃ c tail, text = c :: tail ∧ isDigit c = true := by
  obtain ⟨c, tail, rfl⟩ := List.exists_cons_of_ne_nil h.filled
  exact ⟨c, tail, rfl, h.all c List.mem_cons_self⟩

theorem span_isDigit {text : List Char} (all : ∀ c ∈ text, isDigit c = true) {rest : List Char}
    (stop : ∀ c, rest.head? = some c → isDigit c = false) :
    (text ++ rest).span isDigit = (text, rest) := by
  have hstop : rest.takeWhile isDigit = [] ∧ rest.dropWhile isDigit = rest := by
    cases rest with
    | nil => exact ⟨rfl, rfl⟩
    | cons c rest => simp [stop c rfl]
  rw [List.span_eq_takeWhile_dropWhile, List.takeWhile_append_of_pos all,
    List.dropWhile_append_of_pos all, hstop.1, hstop.2, List.append_nil]

theorem value_lt (text : List Char) : value text < 10 ^ text.length := by
  induction text using List.reverseRecOn with
  | nil => exact Nat.one_pos
  | append_singleton front c ih =>
    have hdigit : (digit? c).getD 0 < 10 := by
      cases hd : digit? c with
      | none => decide
      | some d => exact (digitChar_of_digit? hd).1
    rw [value, List.foldl_append, ← value, List.length_append, List.length_singleton, Nat.pow_succ]
    simp only [List.foldl_cons, List.foldl_nil]
    omega

/-- Without leading zeros there is one way to write a number. -/
theorem digits_value {text : List Char} (h : IsWhole text) : digits 10 (value text) = text := by
  induction text using List.reverseRecOn with
  | nil => exact absurd rfl h.filled
  | append_singleton front c ih =>
    obtain ⟨d, hd⟩ := Option.isSome_iff_exists.mp (h.all c (by simp))
    obtain ⟨hten, rfl⟩ := digitChar_of_digit? hd
    rw [value_append_digit front hten]
    by_cases hfront : front = []
    · subst hfront
      simpa [value] using digits_of_lt hten
    · have hzero : front.head? ≠ some '0' := by
        intro hstart
        have hsingle := h.leading (by rwa [List.head?_append_of_ne_nil _ hfront])
        simp [List.append_eq_singleton_iff, hfront] at hsingle
      have hwhole : IsWhole front :=
        ⟨hfront, fun c hc => h.all c (List.mem_append_left _ hc), fun hstart => absurd hstart hzero⟩
      have hread := ih hwhole
      have hpositive : value front ≠ 0 := by
        intro hvalue
        rw [hvalue] at hread
        rw [← hread] at hzero
        exact hzero rfl
      rw [digits_of_le (by omega) (by omega)]
      congr
      · rw [show (value front * 10 + d) / 10 = value front by omega, hread]
      · omega

/-! ## Numbers with zeros in front -/

theorem padded_toList (width n : Nat) :
    (padded width n).toList =
      List.replicate (width - (digits 10 n).length) '0' ++ digits 10 n := by
  simp [padded]

theorem value_zeros (count : Nat) (text : List Char) :
    value (List.replicate count '0' ++ text) = value text := by
  have hzero : (digit? '0').getD 0 = 0 := by decide
  induction count with
  | zero => rfl
  | succ count ih => simpa [List.replicate_succ, value, hzero] using ih

theorem value_append_zeros (text : List Char) (count : Nat) :
    value (text ++ List.replicate count '0') = value text * 10 ^ count := by
  have hzero : (digit? '0').getD 0 = 0 := by decide
  induction count with
  | zero => simp
  | succ count ih =>
    rw [List.replicate_succ', ← List.append_assoc, value, List.foldl_append, ← value, ih]
    simp [hzero, Nat.pow_succ, Nat.mul_assoc]

theorem value_padded (width n : Nat) : value (padded width n).toList = n := by
  rw [padded_toList, value_zeros, value_digits]

theorem padded_all_isDigit (width n : Nat) : ∀ c ∈ (padded width n).toList, isDigit c = true := by
  intro c hc
  rw [padded_toList] at hc
  rcases List.mem_append.mp hc with hc | hc
  · rw [List.eq_of_mem_replicate hc]
    decide
  · exact digits_all_isDigit n c hc

theorem padded_length {width n : Nat} (hwidth : 0 < width) (h : n < 10 ^ width) :
    (padded width n).toList.length = width := by
  have := digits_length_le hwidth h
  rw [padded_toList, List.length_append, List.length_replicate]
  omega

theorem padded_ne_nil (width n : Nat) : (padded width n).toList ≠ [] := by
  simp [padded_toList, digits_ne_nil]

theorem takeExact?_padded {width n : Nat} (hwidth : 0 < width) (h : n < 10 ^ width)
    (rest : List Char) : takeExact? width ((padded width n).toList ++ rest) = some (n, rest) := by
  have hlength := padded_length hwidth h
  have htake : ((padded width n).toList ++ rest).take width = (padded width n).toList :=
    List.take_left' hlength
  have hdrop : ((padded width n).toList ++ rest).drop width = rest := List.drop_left' hlength
  have hall : (padded width n).toList.all isDigit = true :=
    List.all_eq_true.mpr (padded_all_isDigit width n)
  simp [takeExact?, htake, hdrop, hlength, value_padded, hall]

/-! ## Numbers without sign -/

/-- An optional plus sign and one or more digits. -/
def Writes (text : List Char) (n : Nat) : Prop :=
  ∃ digits, (text = digits ∨ text = '+' :: digits) ∧ digits ≠ [] ∧
    (∀ c ∈ digits, isDigit c = true) ∧ value digits = n

/-- The value of digits behind others that are worth `n`. -/
def valueOnto (n : Nat) (text : List Char) : Nat :=
  text.foldl (fun n c => n * 10 + (digit? c).getD 0) n

theorem le_valueOnto (n : Nat) (text : List Char) : n ≤ valueOnto n text := by
  induction text generalizing n with
  | nil => exact Nat.le_refl n
  | cons c rest ih =>
    have hrest := ih (n * 10 + (digit? c).getD 0)
    simp only [valueOnto, List.foldl_cons] at hrest ⊢
    omega

theorem readOnto_eq_ok {limit n m : Nat} {overflow : Fault} {text : List Char} (bound : n ≤ limit) :
    readOnto limit overflow n text = .ok m ↔
      (∀ c ∈ text, isDigit c = true) ∧ valueOnto n text = m ∧ m ≤ limit := by
  induction text generalizing n with
  | nil =>
    simp only [readOnto, Except.ok.injEq, List.not_mem_nil, false_implies, implies_true, true_and,
      valueOnto, List.foldl_nil]
    constructor
    · rintro rfl
      exact ⟨rfl, bound⟩
    · exact And.left
  | cons c rest ih =>
    rw [readOnto, List.forall_mem_cons]
    cases hdigit : digit? c with
    | none => simp [isDigit, hdigit]
    | some d =>
      have hvalue : valueOnto n (c :: rest) = valueOnto (n * 10 + d) rest := by
        simp [valueOnto, hdigit]
      by_cases hover : limit < n * 10 + d
      · -- A value never gets smaller, so one above the limit stays there.
        have hgrows := le_valueOnto (n * 10 + d) rest
        simp only [hover, if_true, reduceCtorEq, false_iff, hvalue]
        rintro ⟨-, rfl, hm⟩
        omega
      · simp only [hover, if_false, ih (Nat.le_of_not_lt hover), hvalue, isDigit, hdigit,
          Option.isSome_some, true_and]

theorem readDigits_eq_ok {limit m : Nat} {overflow : Fault} {text : List Char} :
    readDigits limit overflow text = .ok m ↔
      text ≠ [] ∧ (∀ c ∈ text, isDigit c = true) ∧ value text = m ∧ m ≤ limit := by
  cases text with
  | nil => simp [readDigits]
  | cons c rest =>
    rw [readDigits, readOnto_eq_ok (Nat.zero_le limit)]
    · exact (and_iff_right (List.cons_ne_nil c rest)).symm
    · exact List.cons_ne_nil c rest

theorem not_isDigit_plus : isDigit '+' = false := by decide

theorem readNatural_eq_ok {limit m : Nat} {text : List Char} :
    readNatural limit text = .ok m ↔ Writes text m ∧ m ≤ limit := by
  have hsplit : Writes text m ∧ m ≤ limit ↔ ∃ digits, (text = digits ∨ text = '+' :: digits) ∧
      readDigits limit .tooLarge digits = .ok m := by
    simp only [Writes, readDigits_eq_ok, ← exists_and_right, and_assoc]
  rw [hsplit]
  unfold readNatural
  split
  · simp [readDigits]
  · rename_i rest
    constructor
    · intro h
      exact ⟨rest, .inr rfl, h⟩
    · rintro ⟨digits, rfl | htext, h⟩
      · -- A plus sign is no digit.
        have hplus := (readDigits_eq_ok.mp h).2.1 '+' List.mem_cons_self
        rw [not_isDigit_plus] at hplus
        cases hplus
      · obtain ⟨-, rfl⟩ := List.cons.inj htext
        exact h
  · rename_i hempty hplus
    constructor
    · intro h
      exact ⟨text, .inl rfl, h⟩
    · rintro ⟨digits, rfl | rfl, h⟩
      · exact h
      · exact absurd rfl (hplus digits)

theorem Writes.unique {text : List Char} {m n : Nat} (h : Writes text m) (h' : Writes text n) :
    m = n := by
  have hm := readNatural_eq_ok.mpr ⟨h, Nat.le_max_left m n⟩
  have hn := readNatural_eq_ok.mpr ⟨h', Nat.le_max_right m n⟩
  exact Except.ok.inj (hm.symm.trans hn)

theorem uint64?_eq_some {text : List Char} {word : UInt64} :
    uint64? text = some word ↔ Writes text word.toNat := by
  have hlimit : UInt64.size - 1 < UInt64.size := by decide
  have hword : word.toNat < UInt64.size := word.toNat_lt
  constructor
  · intro h
    cases hread : readNatural (UInt64.size - 1) text with
    | error fault =>
      rw [uint64?, hread] at h
      cases h
    | ok n =>
      rw [uint64?, hread] at h
      obtain rfl : UInt64.ofNat n = word := Option.some.inj h
      obtain ⟨hwrites, hn⟩ := readNatural_eq_ok.mp hread
      rwa [UInt64.toNat_ofNat_of_lt' (by omega)]
  · intro h
    have hread := readNatural_eq_ok.mpr ⟨h, (by omega : word.toNat ≤ UInt64.size - 1)⟩
    rw [uint64?, hread]
    exact congrArg some (UInt64.ofNat_toNat)

theorem writes_digits (n : Nat) : Writes (digits 10 n) n :=
  ⟨digits 10 n, .inl rfl, digits_ne_nil n, digits_all_isDigit n, value_digits n⟩

theorem signed_toList (n : Nat) : (signed n).toList = digits 10 n := by
  rw [signed, if_neg (Int.not_lt.mpr (Int.natCast_nonneg n)), Int.natAbs_natCast, decimal,
    String.toList_ofList]

theorem Writes.chars {text : List Char} {n : Nat} (h : Writes text n) :
    ∀ c ∈ text, c = '+' ∨ isDigit c = true := by
  obtain ⟨digits, rfl | rfl, -, hall, -⟩ := h
  · exact fun c hc => .inr (hall c hc)
  · intro c hc
    rcases List.mem_cons.mp hc with rfl | hc
    · exact .inl rfl
    · exact .inr (hall c hc)

/-! ## Numbers with a sign -/

def signChars (isNegative : Bool) : List Char := if isNegative then ['-'] else []

theorem signed_eq_signChars (n : Int) :
    (signed n).toList = signChars (n < 0) ++ digits 10 n.natAbs := by
  by_cases hsign : n < 0 <;> simp [signed, signChars, hsign, decimal]

/-- The sign and the digits that a number is written with denote it. -/
theorem signChars_natAbs (n : Int) :
    (if decide (n < 0) then -((n.natAbs : Nat) : Int) else n.natAbs) = n := by
  by_cases hsign : n < 0
  · simp only [hsign, decide_true, if_true]
    omega
  · simp only [hsign, decide_false, Bool.false_eq_true, if_false]
    omega

theorem signed_inj {m n : Int} : signed m = signed n ↔ m = n := by
  constructor
  · intro h
    have hchars := congrArg String.toList h
    rw [signed_eq_signChars, signed_eq_signChars] at hchars
    have hminus : ∀ k : Nat, (digits 10 k).head? ≠ some '-' := by
      intro k hk
      have hdigit := digits_all_isDigit k '-' (List.mem_of_head? hk)
      exact absurd hdigit (by decide)
    have hsign : decide (m < 0) = decide (n < 0) := by
      cases hm : decide (m < 0) <;> cases hn : decide (n < 0) <;>
        simp only [hm, hn, signChars] at hchars ⊢
      · exact absurd (congrArg List.head? hchars) (by simpa using hminus m.natAbs)
      · exact absurd (congrArg List.head? hchars).symm (by simpa using hminus n.natAbs)
    rw [hsign] at hchars
    have hdigits := congrArg value (List.append_cancel_left hchars)
    rw [value_digits, value_digits] at hdigits
    rw [← signChars_natAbs m, ← signChars_natAbs n, hsign, hdigits]
  · rintro rfl
    rfl

/-- A number without a minus sign, or one or more digits behind it. -/
inductive WritesSigned : List Char → Int → Prop
  | natural {text : List Char} {n : Nat} (h : Writes text n) : WritesSigned text n
  | negative {digits : List Char} (filled : digits ≠ [])
      (all : ∀ c ∈ digits, isDigit c = true) : WritesSigned ('-' :: digits) (-(value digits : Int))

theorem not_writes_minus {rest : List Char} {n : Nat} : ¬ Writes ('-' :: rest) n := by
  intro h
  rcases h.chars '-' List.mem_cons_self with hplus | hdigit
  · exact absurd hplus (by decide)
  · exact absurd hdigit (by decide)

theorem map_eq_ok {ε α β : Type} {f : α → β} {x : Except ε α} {b : β} :
    x.map f = .ok b ↔ ∃ a, x = .ok a ∧ f a = b := by
  cases x <;> simp [Except.map]

theorem readSigned_of_ne {text : List Char} (h : ∀ rest, text ≠ '-' :: rest) :
    readSigned text = (readNatural (Nat.pow 2 63 - 1) text).map Int.ofNat := by
  unfold readSigned readNatural
  split
  · rfl
  · rfl
  · rename_i rest
    exact absurd rfl (h rest)
  · rename_i hempty hplus _
    split
    · exact absurd rfl hempty
    · exact absurd rfl (hplus _)
    · rfl

/-- Within 64 bits an integer is read from exactly its texts. -/
theorem readSigned_eq_ok {text : List Char} {n : Int} :
    readSigned text = .ok n ↔
      WritesSigned text n ∧ Int64.minValue.toInt ≤ n ∧ n ≤ Int64.maxValue.toInt := by
  have hlow : Int64.minValue.toInt = -(2 ^ 63 : Nat) := by decide
  have hhigh : Int64.maxValue.toInt = (2 ^ 63 - 1 : Nat) := by decide
  rw [hlow, hhigh]
  by_cases hminus : ∃ rest, text = '-' :: rest
  · obtain ⟨rest, rfl⟩ := hminus
    simp only [readSigned, map_eq_ok, readDigits_eq_ok]
    constructor
    · rintro ⟨m, ⟨filled, all, rfl, hm⟩, rfl⟩
      refine ⟨.negative filled all, ?_, ?_⟩
      · simp only [Int.ofNat_eq_natCast]
        exact Int.neg_le_neg (Int.ofNat_le.mpr hm)
      · simp only [Int.ofNat_eq_natCast]
        omega
    · rintro ⟨hwrites, hbound, -⟩
      cases hwrites with
      | natural h => exact absurd h not_writes_minus
      | negative filled all =>
        refine ⟨_, ⟨filled, all, rfl, ?_⟩, rfl⟩
        exact Int.ofNat_le.mp (Int.neg_le_neg_iff.mp hbound)
  · rw [readSigned_of_ne fun rest h => hminus ⟨rest, h⟩, map_eq_ok]
    simp only [readNatural_eq_ok]
    constructor
    · rintro ⟨m, ⟨hwrites, hm⟩, rfl⟩
      exact ⟨.natural hwrites, by simp only [Int.ofNat_eq_natCast]; omega, Int.ofNat_le.mpr hm⟩
    · rintro ⟨hwrites, -, hbound⟩
      cases hwrites with
      | natural h => exact ⟨_, ⟨h, Int.ofNat_le.mp hbound⟩, rfl⟩
      | negative filled all => exact absurd ⟨_, rfl⟩ hminus

theorem readSigned_le {text : List Char} {n : Int} (h : readSigned text = .ok n) :
    n ≤ Int64.maxValue.toInt :=
  (readSigned_eq_ok.mp h).2.2

end SegmentRules.Numeral
