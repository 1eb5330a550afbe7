import SegmentRules.Double.Shortest
import SegmentRules.Proofs.Double.Rounding

/-! # The fewest digits read back

The search for digits ends at the latest with seventeen of them, whose grid is so fine that the
decimal nearest to a number is near enough to be rounded to it. -/
namespace SegmentRules.Double

/-! ## Decimals as quotients -/

theorem ofDecimal_eq_ofRatio {digits : Nat} {exponent : Int} (hdigits : digits ≠ 0)
    (low : -400 ≤ exponent) (high : exponent < 400) (isNegative : Bool) :
    ofDecimal isNegative digits exponent =
      ofRatio isNegative (digits * 10 ^ exponent.toNat) (10 ^ (-exponent).toNat) := by
  have hbits : (0 : Int) ≤ bitLength digits := Int.natCast_nonneg _
  rw [ofDecimal, if_neg hdigits, if_neg (by omega), if_neg (by omega)]
  by_cases hsign : 0 ≤ exponent
  · have hzero : (-exponent).toNat = 0 := by omega
    rw [if_pos hsign, hzero]
    rfl
  · have hzero : exponent.toNat = 0 := by omega
    rw [if_neg hsign, hzero, Nat.pow_zero, Nat.mul_one]
    rfl

/-- Zeros at the end of the digits may as well be part of the exponent. -/
theorem ofDecimal_shift {digits count : Nat} {exponent : Int} (hdigits : digits ≠ 0)
    (low : -400 ≤ exponent - count) (high : exponent < 400) (isNegative : Bool) :
    ofDecimal isNegative (digits * 10 ^ count) (exponent - count) =
      ofDecimal isNegative digits exponent := by
  have hten : ∀ n, 0 < 10 ^ n := fun n => Nat.pow_pos (by decide)
  have hscaled : digits * 10 ^ count ≠ 0 := Nat.mul_ne_zero hdigits (hten count).ne'
  have hpowers : count + (exponent - count).toNat + (-exponent).toNat =
      exponent.toNat + (-(exponent - count)).toNat := by
    omega
  rw [ofDecimal_eq_ofRatio hscaled low (by omega), ofDecimal_eq_ofRatio hdigits (by omega) high]
  refine ofRatio_congr ?_ (hten _) (hten _) isNegative
  rw [Nat.mul_assoc, Nat.mul_assoc, Nat.mul_assoc, ← Nat.pow_add, ← Nat.pow_add, ← Nat.pow_add,
    ← hpowers, Nat.add_assoc]

theorem exists_ofDecimal_eq (digits : Nat) (exponent : Int) : ∃ magnitude ≤ infinityBits,
    ∀ isNegative, ofDecimal isNegative digits exponent = ofMagnitude isNegative magnitude := by
  simp only [ofDecimal]
  split
  · exact ⟨0, Nat.zero_le _, fun _ => rfl⟩
  split
  · exact ⟨infinityBits, Nat.le_refl _, fun _ => rfl⟩
  split
  · exact ⟨0, Nat.zero_le _, fun _ => rfl⟩
  split
  · exact ⟨_, Nat.min_le_left infinityBits _, fun _ => ofRatio_eq _ _ _⟩
  · exact ⟨_, Nat.min_le_left infinityBits _, fun _ => ofRatio_eq _ _ _⟩

theorem magnitude_ofMagnitude {m : Nat} (h : m < 2 ^ 63) (isNegative : Bool) :
    (ofMagnitude isNegative m).magnitude = m := by
  have hbits : m + (if isNegative then Nat.pow 2 63 else 0) < 2 ^ 64 := by
    simp only [Nat.pow_eq]
    split <;> omega
  simp only [magnitude, ofMagnitude, UInt64.toNat_ofNat_of_lt' hbits, Nat.pow_eq]
  split <;> omega

theorem ofDecimal_of_readsAs {x : Double} {d : Decimal} (h : readsAs x d = true)
    (isNegative : Bool) :
    ofDecimal isNegative d.digits d.exponent = ofMagnitude isNegative x.magnitude := by
  obtain ⟨m, hm, hall⟩ := exists_ofDecimal_eq d.digits d.exponent
  have hx : ofMagnitude false m = x := by
    rw [← hall]
    simpa [readsAs] using h
  have hsmall : m < 2 ^ 63 := Nat.lt_of_le_of_lt hm (by decide)
  rw [hall, ← hx, magnitude_ofMagnitude hsmall]

/-! ## The leading digit -/

def Reaches (num den : Nat) (p : Int) : Prop := 10 ^ p.toNat * den ≤ num * 10 ^ (-p).toNat

theorem reaches_iff (num den : Nat) (p : Int) :
    (if 0 ≤ p then Nat.pow 10 p.toNat * den ≤ num else den ≤ num * Nat.pow 10 (-p).toNat) ↔
      Reaches num den p := by
  by_cases hp : 0 ≤ p
  · have hzero : (-p).toNat = 0 := by omega
    simp [hp, Reaches, hzero]
  · have hzero : p.toNat = 0 := by omega
    simp [hp, Reaches, hzero]

theorem leadingExponent_spec {num den : Nat} {low : Int} (fuel : Nat) (start : Int)
    (reached : Reaches num den low) (h : low ≤ start) (enough : start < low + fuel) :
    Reaches num den (leadingExponent num den fuel start) ∧
      low ≤ leadingExponent num den fuel start ∧ leadingExponent num den fuel start ≤ start := by
  induction fuel generalizing start with
  | zero => omega
  | succ fuel ih =>
    have hiff := reaches_iff num den start
    by_cases hreached : Reaches num den start
    · rw [leadingExponent, if_pos]
      · exact ⟨hreached, h, Int.le_refl start⟩
      · simpa using hiff.mpr hreached
    · have hne : start ≠ low := by
        rintro rfl
        exact hreached reached
      obtain ⟨hp, hlow, hstart⟩ := ih (start - 1) (by omega) (by omega)
      rw [leadingExponent, if_neg]
      · exact ⟨hp, hlow, by omega⟩
      · simpa using mt hiff.mp hreached

theorem reaches_of_le {units unit places : Nat} (h : 0 < units) (few : unit ≤ 10 ^ places) :
    Reaches units unit (-places) := by
  have hlow : (-(places : Int)).toNat = 0 := by omega
  have hhigh : (-(-(places : Int))).toNat = places := by omega
  rw [Reaches, hlow, hhigh, Nat.pow_zero, Nat.one_mul]
  exact Nat.le_trans few (Nat.le_mul_of_pos_left _ h)

theorem oneInUnits_le : oneInUnits ≤ 10 ^ 324 := by decide +kernel

theorem oneInUnits_pos : 0 < oneInUnits := by decide +kernel

/-- Twice as many bits are more than a finite number has. -/
theorem oneInUnits_eq : ∃ bits, 1050 ≤ bits ∧ oneInUnits = 2 ^ bits :=
  ⟨1074, by decide, by decide +kernel⟩

/-! ## Grids -/

theorem step_pos (places : Nat) : 0 < oneInUnits * 10 ^ places :=
  Nat.mul_pos oneInUnits_pos (Nat.pow_pos (by decide))

theorem gridNumerator_eq (units : Nat) (exponent : Int) :
    (if 0 ≤ exponent then units else units * Nat.pow 10 (-exponent).toNat) =
      units * 10 ^ (-exponent).toNat := by
  split
  · have hzero : (-exponent).toNat = 0 := by omega
    rw [hzero, Nat.pow_zero, Nat.mul_one]
  · rfl

theorem gridDenominator_eq (unit : Nat) (exponent : Int) :
    (if 0 ≤ exponent then unit * Nat.pow 10 exponent.toNat else unit) =
      unit * 10 ^ exponent.toNat := by
  split
  · rfl
  · have hzero : exponent.toNat = 0 := by omega
    rw [hzero, Nat.pow_zero, Nat.mul_one]

/-- A grid offers the two decimals next to a number, and first the one that is at most half a step
away from it. -/
theorem onGrid?_eq (tie : Tie) (x : Double) (exponent : Int) : ∃ first second : Nat,
    onGrid? tie x exponent =
      (if readsAs x ⟨first, exponent⟩ then some ⟨first, exponent⟩
        else if readsAs x ⟨second, exponent⟩ then some ⟨second, exponent⟩ else none) ∧
    2 * (first * (oneInUnits * 10 ^ exponent.toNat)) ≤
      2 * (x.units * 10 ^ (-exponent).toNat) + oneInUnits * 10 ^ exponent.toNat ∧
    2 * (x.units * 10 ^ (-exponent).toNat) ≤
      2 * (first * (oneInUnits * 10 ^ exponent.toNat)) +
        oneInUnits * 10 ^ exponent.toNat := by
  have hpositive := step_pos exponent.toNat
  simp only [onGrid?, gridNumerator_eq, gridDenominator_eq]
  generalize x.units * 10 ^ (-exponent).toNat = num,
    oneInUnits * 10 ^ exponent.toNat = den at hpositive ⊢
  have hdivision := Nat.div_add_mod num den
  have hrest := Nat.mod_lt num hpositive
  rw [Nat.mul_comm] at hdivision
  split
  · rename_i hprefer
    have hhalf : den ≤ 2 * (num % den) := by
      simp only [Bool.or_eq_true, decide_eq_true_eq, Bool.and_eq_true, beq_iff_eq] at hprefer
      omega
    refine ⟨num / den + 1, num / den, rfl, ?_, ?_⟩
    · rw [Nat.add_mul]
      omega
    · rw [Nat.add_mul]
      omega
  · rename_i hprefer
    have hhalf : 2 * (num % den) ≤ den := by
      simp only [Bool.or_eq_true, decide_eq_true_eq, not_or] at hprefer
      omega
    exact ⟨num / den, num / den + 1, rfl, by omega, by omega⟩

theorem onGrid?_eq_some {tie : Tie} {x : Double} {exponent : Int} {d : Decimal}
    (h : onGrid? tie x exponent = some d) : readsAs x d = true ∧ d.exponent = exponent := by
  obtain ⟨first, second, heq, -⟩ := onGrid?_eq tie x exponent
  rw [heq] at h
  split at h
  · rename_i hreads
    obtain rfl := Option.some.inj h
    exact ⟨hreads, rfl⟩
  split at h
  · rename_i hreads
    obtain rfl := Option.some.inj h
    exact ⟨hreads, rfl⟩
  · cases h

theorem near_of_half {num den first : Nat} (positive : 0 < den) (fine : 10 ^ 16 * den ≤ num)
    (below : 2 * (first * den) ≤ 2 * num + den) (above : 2 * num ≤ 2 * (first * den) + den) :
    Near num (first * den) := by
  constructor
  · omega
  · omega

/-- A grid is fine enough if a number is worth `10 ^ 16` of its steps. -/
theorem exists_onGrid? (tie : Tie) {x : Double} (finite : x.isFinite = true)
    (positive : x.isNegative = false) {exponent : Int} (low : -400 ≤ exponent)
    (high : exponent < 400)
    (fine : 10 ^ 16 * (oneInUnits * 10 ^ exponent.toNat) ≤ x.units * 10 ^ (-exponent).toNat) :
    ∃ d, onGrid? tie x exponent = some d := by
  obtain ⟨first, second, heq, hbelow, habove⟩ := onGrid?_eq tie x exponent
  have hpositive := step_pos exponent.toNat
  have hnear : Near (x.units * 10 ^ (-exponent).toNat)
      (first * 10 ^ exponent.toNat * oneInUnits) := by
    rw [Nat.mul_assoc, Nat.mul_comm (10 ^ exponent.toNat)]
    exact near_of_half hpositive fine hbelow habove
  have hfirst : first ≠ 0 := by
    rintro rfl
    rw [Nat.zero_mul] at habove
    omega
  have hreads : readsAs x ⟨first, exponent⟩ = true := by
    rw [readsAs, ofDecimal_eq_ofRatio hfirst low high, ofRatio_of_near finite hnear, ← positive,
      ofMagnitude_self, beq_self_eq_true]
  exact ⟨⟨first, exponent⟩, by rw [heq, if_pos hreads]⟩

/-- The generated equation is slow to make, and so is a bare `rfl` here: both unfold `onGrid?`. -/
theorem shortestFrom_succ (tie : Tie) (x : Double) (leading : Int) (fuel count : Nat) :
    shortestFrom tie x leading (fuel + 1) count =
      match onGrid? tie x (leading - count + 1) with
      | some d => d
      | none => shortestFrom tie x leading fuel (count + 1) := (rfl)

theorem shortestFrom_spec {tie : Tie} {x : Double} {leading : Int} {fuel count : Nat}
    (last : ∃ d, onGrid? tie x (leading - (count + fuel : Nat) + 1) = some d) :
    ∃ n ≤ count + fuel, count ≤ n ∧
      onGrid? tie x (leading - n + 1) = some (shortestFrom tie x leading (fuel + 1) count) := by
  induction fuel generalizing count with
  | zero =>
    obtain ⟨d, hd⟩ := last
    refine ⟨count, Nat.le_refl _, Nat.le_refl _, ?_⟩
    rw [Nat.add_zero] at hd
    rw [shortestFrom_succ, hd]
  | succ fuel ih =>
    cases hgrid : onGrid? tie x (leading - count + 1) with
    | some d =>
      refine ⟨count, Nat.le_add_right _ _, Nat.le_refl _, ?_⟩
      rw [shortestFrom_succ, hgrid]
    | none =>
      rw [← Nat.add_assoc, Nat.add_right_comm] at last
      obtain ⟨n, hn, hcount, hsome⟩ := ih last
      refine ⟨n, by omega, by omega, ?_⟩
      rw [shortestFrom_succ, hgrid]
      exact hsome

theorem strip_spec (fuel : Nat) (d : Decimal) : ∃ count ≤ fuel,
    d.digits = (d.strip fuel).digits * 10 ^ count ∧
      (d.strip fuel).exponent = d.exponent + count := by
  induction fuel generalizing d with
  | zero => exact ⟨0, Nat.le_refl 0, by simp [Decimal.strip], by simp [Decimal.strip]⟩
  | succ fuel ih =>
    rw [Decimal.strip]
    split
    · rename_i hzero
      obtain ⟨count, hcount, hdigits, hexponent⟩ := ih ⟨d.digits / 10, d.exponent + 1⟩
      refine ⟨count + 1, by omega, ?_, ?_⟩
      · rw [Nat.pow_succ, ← Nat.mul_assoc, ← hdigits]
        exact (Nat.div_mul_cancel (Nat.dvd_of_mod_eq_zero hzero.2)).symm
      · rw [hexponent]
        push_cast
        ring
    · exact ⟨0, Nat.zero_le _, by simp, by simp⟩

theorem units_pos {x : Double} (nonzero : x.isZero = false) : 0 < x.units := by
  obtain ⟨k, shift, ⟨-, hleading⟩, hunits, hmagnitude⟩ := exists_significand x
  have hne : x.magnitude ≠ 0 := by simpa [isZero] using nonzero
  have hk : 0 < k := by
    rcases hleading with rfl | hleading
    · omega
    · omega
  rw [hunits]
  exact Nat.mul_pos hk (Nat.two_pow_pos shift)

/-- Sixteen places behind the leading digit a number is worth at least `10 ^ 16` steps. -/
theorem fine_of_reaches {num den : Nat} {p : Int} (h : Reaches num den p) :
    10 ^ 16 * (den * 10 ^ (p - 16).toNat) ≤ num * 10 ^ (-(p - 16)).toNat := by
  have hpowers : 16 + (p - 16).toNat + (-p).toNat = p.toNat + (-(p - 16)).toNat := by omega
  have hten : 0 < 10 ^ (-p).toNat := Nat.pow_pos (by decide)
  refine Nat.le_of_mul_le_mul_right ?_ hten
  calc 10 ^ 16 * (den * 10 ^ (p - 16).toNat) * 10 ^ (-p).toNat
    _ = den * 10 ^ (16 + (p - 16).toNat + (-p).toNat) := by
      rw [Nat.pow_add, Nat.pow_add]
      ring
    _ = 10 ^ p.toNat * den * 10 ^ (-(p - 16)).toNat := by
      rw [hpowers, Nat.pow_add]
      ring
    _ ≤ num * 10 ^ (-p).toNat * 10 ^ (-(p - 16)).toNat := Nat.mul_le_mul_right _ h
    _ = num * 10 ^ (-(p - 16)).toNat * 10 ^ (-p).toNat := by ring

theorem two_pow_le_quotient {bits places num k : Nat} (few : 2 ^ bits ≤ 10 ^ places)
    (h : 10 ^ (places + k) ≤ num) : 2 ^ (bits + bits) ≤ num * 2 ^ bits / 10 ^ k := by
  have hden : 0 < 10 ^ k := Nat.pow_pos (by decide)
  rw [Nat.le_div_iff_mul_le hden, Nat.pow_add, Nat.mul_right_comm]
  refine Nat.mul_le_mul_right _ (Nat.le_trans ?_ h)
  rw [Nat.pow_add]
  exact Nat.mul_le_mul_right _ few

theorem infinityBits_le_roundedMagnitude {num k : Nat} (h : 10 ^ (324 + k) ≤ num) :
    infinityBits ≤ roundedMagnitude (num * oneInUnits) (10 ^ k) := by
  have few := oneInUnits_le
  obtain ⟨bits, hbits, hunits⟩ := oneInUnits_eq
  rw [hunits] at few ⊢
  have hlarge : infinityBits ≤ (bits + bits - 52) * 2 ^ 52 := Nat.mul_le_mul_right _ (by omega)
  exact Nat.le_trans hlarge (le_roundedMagnitude (two_pow_le_quotient few h))

theorem lt_of_isFinite {x : Double} {digits : Nat} {exponent : Int} (finite : x.isFinite = true)
    (hdigits : digits ≠ 0) (low : -400 ≤ exponent) (high : exponent < 400)
    (h : ofDecimal false digits exponent = ofMagnitude false x.magnitude) :
    digits * 10 ^ exponent.toNat < 10 ^ (324 + (-exponent).toNat) := by
  have hfinite : x.magnitude < infinityBits := by simpa [isFinite] using finite
  have hmagnitude : x.magnitude = min infinityBits (roundedMagnitude
      (digits * 10 ^ exponent.toNat * oneInUnits) (10 ^ (-exponent).toNat)) := by
    rw [ofDecimal_eq_ofRatio hdigits low high, ofRatio_eq] at h
    have hbits := congrArg magnitude h
    rw [magnitude_ofMagnitude (Nat.lt_of_lt_of_le hfinite (by decide)),
      magnitude_ofMagnitude (Nat.lt_of_le_of_lt (Nat.min_le_left _ _) (by decide))] at hbits
    exact hbits.symm
  by_contra hmore
  have hrounded := infinityBits_le_roundedMagnitude (Nat.le_of_not_lt hmore)
  omega

/-- The shortest decimal is rounded to the number it was found for. -/
theorem shortest_reads (tie : Tie) {x : Double} (finite : x.isFinite = true)
    (positive : x.isNegative = false) (nonzero : x.isZero = false) :
    (shortest tie x).digits ≠ 0 ∧ -400 ≤ (shortest tie x).exponent ∧
      (shortest tie x).exponent < 400 ∧
      ∀ isNegative, ofDecimal isNegative (shortest tie x).digits (shortest tie x).exponent =
        ofMagnitude isNegative x.magnitude := by
  obtain ⟨hreaches, hlow, hhigh⟩ := leadingExponent_spec 640 310
    (reaches_of_le (units_pos nonzero) oneInUnits_le) (by omega) (by omega)
  simp only [shortest]
  generalize leadingExponent x.units oneInUnits 640 310 = leading at hreaches hlow hhigh ⊢
  have hlast : ∃ d, onGrid? tie x (leading - (1 + 16 : Nat) + 1) = some d := by
    have hexponent : leading - (1 + 16 : Nat) + 1 = leading - 16 := by omega
    rw [hexponent]
    exact exists_onGrid? tie finite positive (by omega) (by omega) (fine_of_reaches hreaches)
  obtain ⟨n, hn, hcount, hsome⟩ := shortestFrom_spec hlast
  obtain ⟨hreads, hexponent⟩ := onGrid?_eq_some hsome
  generalize shortestFrom tie x leading (16 + 1) 1 = d at hreads hexponent ⊢
  have hfound := ofDecimal_of_readsAs hreads
  have hdigits : d.digits ≠ 0 := by
    intro hzero
    have hx := hfound false
    rw [ofDecimal, if_pos hzero, ← positive, ofMagnitude_self] at hx
    rw [isZero, ← hx, magnitude_ofMagnitude (by decide)] at nonzero
    cases nonzero
  obtain ⟨zeros, hzeros, hstripped, hshifted⟩ := strip_spec 20 d
  have hkept : (d.strip 20).digits ≠ 0 := by
    intro hzero
    rw [hstripped, hzero, Nat.zero_mul] at hdigits
    exact hdigits rfl
  refine ⟨hkept, by omega, by omega, fun isNegative => ?_⟩
  have hexponent' : d.exponent = (d.strip 20).exponent - zeros := by omega
  rw [← hfound isNegative, hstripped, hexponent']
  exact (ofDecimal_shift hkept (by omega) (by omega) isNegative).symm

end SegmentRules.Double
