import Mathlib.Data.Nat.Log
import Mathlib.Tactic.Ring
import SegmentRules.Double.Basic

/-! # Rounding

A quotient is rounded by its value alone, and to a given number whenever the two differ by less than
a part in `2 ^ 54`: half the distance to either neighbour is never less. -/
namespace SegmentRules.Double

/-! ## Nearest whole numbers -/

theorem roundHalfEven_eq {num den k : Nat} (below : 2 * (k * den) < 2 * num + den)
    (above : 2 * num < 2 * (k * den) + den) : roundHalfEven num den = k := by
  have hden : 0 < den := by omega
  have hdivision := Nat.div_add_mod num den
  have hrest := Nat.mod_lt num hden
  rw [Nat.mul_comm] at hdivision
  unfold roundHalfEven
  generalize num / den = q, num % den = r at hdivision hrest ⊢
  rcases Nat.lt_trichotomy q k with hlt | rfl | hgt
  · -- The quotient can only be one too small, and then the rest is more than half.
    have hone : k = q + 1 := by
      by_contra hne
      have htwo : (q + 2) * den ≤ k * den := Nat.mul_le_mul_right den (by omega)
      rw [Nat.add_mul] at htwo
      omega
    subst hone
    rw [Nat.add_mul, Nat.one_mul] at below
    exact if_pos (.inl (by omega))
  · exact if_neg (by omega)
  · have hnext : (k + 1) * den ≤ q * den := Nat.mul_le_mul_right den hgt
    rw [Nat.add_mul] at hnext
    omega

theorem roundHalfEven_mul (num den : Nat) {factor : Nat} (h : 0 < factor) :
    roundHalfEven (num * factor) (den * factor) = roundHalfEven num den := by
  have hquotient : num * factor / (den * factor) = num / den := Nat.mul_div_mul_right _ _ h
  have hrest : num * factor % (den * factor) = num % den * factor := Nat.mul_mod_mul_right _ _ _
  have hless : den * factor < 2 * (num % den * factor) ↔ den < 2 * (num % den) := by
    rw [← Nat.mul_assoc, Nat.mul_lt_mul_right h]
  have heq : 2 * (num % den * factor) = den * factor ↔ 2 * (num % den) = den := by
    rw [← Nat.mul_assoc, Nat.mul_left_inj h.ne']
  simp only [roundHalfEven, hquotient, hrest, hless, heq]

theorem bitLength_le {n k : Nat} (h : n < 2 ^ k) : bitLength n ≤ k := by
  unfold bitLength
  split
  · exact Nat.zero_le k
  · rename_i hne
    exact (Nat.log2_lt hne).mpr h

theorem lt_bitLength {n k : Nat} (h : 2 ^ k ≤ n) : k < bitLength n := by
  have hpower := Nat.two_pow_pos k
  have hne : n ≠ 0 := by omega
  rw [bitLength, if_neg hne]
  exact Nat.lt_succ_of_le ((Nat.le_log2 hne).mpr h)

theorem bitLength_eq {n k : Nat} (h : 2 ^ k ≤ n) (h' : n < 2 ^ (k + 1)) : bitLength n = k + 1 :=
  Nat.le_antisymm (bitLength_le h') (lt_bitLength h)

/-! ## The number nearest to a quotient -/

/-- The magnitude of the number nearest to a quotient of units, if none is too large. -/
def roundedMagnitude (num den : Nat) : Nat :=
  let shift := bitLength (num / den) - 53
  shift * 2 ^ 52 + roundHalfEven num (den * 2 ^ shift)

theorem ofRatio_eq (isNegative : Bool) (num den : Nat) :
    ofRatio isNegative num den =
      ofMagnitude isNegative (min infinityBits (roundedMagnitude (num * oneInUnits) den)) :=
  rfl

theorem roundedMagnitude_mul (num den : Nat) {factor : Nat} (h : 0 < factor) :
    roundedMagnitude (num * factor) (den * factor) = roundedMagnitude num den := by
  have hquotient : num * factor / (den * factor) = num / den := Nat.mul_div_mul_right _ _ h
  simp only [roundedMagnitude, hquotient]
  rw [Nat.mul_right_comm den factor, roundHalfEven_mul _ _ h]

theorem ofRatio_congr {num den num' den' : Nat} (h : num * den' = num' * den) (hden : 0 < den)
    (hden' : 0 < den') (isNegative : Bool) :
    ofRatio isNegative num den = ofRatio isNegative num' den' := by
  rw [ofRatio_eq, ofRatio_eq, ← roundedMagnitude_mul _ den hden',
    ← roundedMagnitude_mul _ den' hden, Nat.mul_right_comm, h, Nat.mul_right_comm,
    Nat.mul_comm den den']

theorem le_roundedMagnitude {num den k : Nat} (h : 2 ^ k ≤ num / den) :
    (k - 52) * 2 ^ 52 ≤ roundedMagnitude num den := by
  have hbits := lt_bitLength h
  have hshift : (k - 52) * 2 ^ 52 ≤ (bitLength (num / den) - 53) * 2 ^ 52 :=
    Nat.mul_le_mul_right _ (by omega)
  exact Nat.le_trans hshift (Nat.le_add_right _ _)

/-- Two quantities that differ by less than a part in `2 ^ 54` of the first. -/
structure Near (units num : Nat) : Prop where
  below : 2 ^ 54 * units < 2 ^ 54 * num + units
  above : 2 ^ 54 * num < 2 ^ 54 * units + units

/-- A number in units is a significand of at most 53 bits and a power of two. All of the bits are
used unless the power is one. -/
structure Significand (k shift : Nat) : Prop where
  small : k < 2 ^ 53
  leading : shift = 0 ∨ 2 ^ 52 ≤ k

theorem roundedMagnitude_of_shift {num den shift k : Nat}
    (hshift : bitLength (num / den) - 53 = shift)
    (below : 2 * (k * (2 ^ shift * den)) < 2 * num + 2 ^ shift * den)
    (above : 2 * num < 2 * (k * (2 ^ shift * den)) + 2 ^ shift * den) :
    roundedMagnitude num den = shift * 2 ^ 52 + k := by
  rw [Nat.mul_comm (2 ^ shift) den] at below above
  rw [roundedMagnitude, hshift, roundHalfEven_eq below above]

/-- The shift of a quotient in steps of which it has at least `2 ^ 52`, or that are units, and less
than `2 ^ 53`. -/
theorem shift_of_bounds {num den shift : Nat} (hden : 0 < den)
    (small : num < 2 ^ 53 * (2 ^ shift * den))
    (leading : shift = 0 ∨ 2 ^ 52 * (2 ^ shift * den) ≤ num) :
    bitLength (num / den) - 53 = shift := by
  have hless : num / den < 2 ^ (52 + shift + 1) := by
    rwa [Nat.div_lt_iff_lt_mul hden, Nat.add_right_comm, Nat.pow_add, Nat.mul_assoc]
  rcases leading with rfl | hleading
  · have hbits := bitLength_le hless
    omega
  · have hgreater : 2 ^ (52 + shift) ≤ num / den := by
      rwa [Nat.le_div_iff_mul_le hden, Nat.pow_add, Nat.mul_assoc]
    rw [bitLength_eq hgreater hless]
    omega

theorem roundedMagnitude_of_near {k shift num den : Nat} (h : Significand k shift)
    (near : Near (k * (2 ^ shift * den)) num) :
    roundedMagnitude num den = shift * 2 ^ 52 + k := by
  obtain ⟨hsmall, hleading⟩ := h
  obtain ⟨hbelow, habove⟩ := near
  have hden : 0 < den := by
    rcases Nat.eq_zero_or_pos den with rfl | hpos
    · simp only [Nat.mul_zero] at hbelow habove
      omega
    · exact hpos
  -- The significand counts steps, and the quotient is less than half a step away from it.
  have hcount : (k + 1) * (2 ^ shift * den) ≤ 2 ^ 53 * (2 ^ shift * den) :=
    Nat.mul_le_mul_right _ hsmall
  rw [Nat.add_mul, Nat.one_mul] at hcount
  have hlow : 2 * (k * (2 ^ shift * den)) < 2 * num + 2 ^ shift * den := by omega
  have hhigh : 2 * num < 2 * (k * (2 ^ shift * den)) + 2 ^ shift * den := by omega
  by_cases hfull : shift = 0 ∨ 2 ^ 52 * (2 ^ shift * den) ≤ num
  · exact roundedMagnitude_of_shift (shift_of_bounds hden (by omega) hfull) hlow hhigh
  · -- Just below a power of two the steps are half as large, and there are `2 ^ 53` of them.
    rw [not_or, Nat.not_le] at hfull
    obtain ⟨hpositive, hsmaller⟩ := hfull
    obtain ⟨shift, rfl⟩ := Nat.exists_eq_add_one_of_ne_zero hpositive
    have hk : k = 2 ^ 52 := by
      by_contra hne
      have hmore : (2 ^ 52 + 1) * (2 ^ (shift + 1) * den) ≤ k * (2 ^ (shift + 1) * den) :=
        Nat.mul_le_mul_right _ (by omega)
      rw [Nat.add_mul, Nat.one_mul] at hmore
      omega
    subst hk
    have hhalf : 2 ^ (shift + 1) * den = 2 * (2 ^ shift * den) := by
      ring
    rw [hhalf] at hbelow habove hlow hhigh hsmaller
    have hbits : bitLength (num / den) - 53 = shift :=
      shift_of_bounds hden (by omega) (.inr (by omega))
    have hlow' : 2 * (2 ^ 53 * (2 ^ shift * den)) < 2 * num + 2 ^ shift * den := by omega
    have hhigh' : 2 * num < 2 * (2 ^ 53 * (2 ^ shift * den)) + 2 ^ shift * den := by omega
    rw [roundedMagnitude_of_shift hbits hlow' hhigh']
    omega

/-! ## Bits -/

theorem ofMagnitude_self (x : Double) : ofMagnitude x.isNegative x.magnitude = x := by
  have hbits : x.bits.toNat < 2 ^ 64 := x.bits.toNat_lt
  have hsum : x.magnitude + (if x.isNegative then Nat.pow 2 63 else 0) = x.bits.toNat := by
    simp only [magnitude, isNegative, Nat.pow_eq, decide_eq_true_eq]
    split <;> omega
  rw [ofMagnitude, hsum, UInt64.ofNat_toNat]

theorem exists_significand (x : Double) : ∃ k shift, Significand k shift ∧
    x.units = k * 2 ^ shift ∧ x.magnitude = shift * 2 ^ 52 + k := by
  have hmagnitude := Nat.div_add_mod x.magnitude (2 ^ 52)
  have hfraction := Nat.mod_lt x.magnitude (Nat.two_pow_pos 52)
  simp only [units, Nat.pow_eq]
  split
  · rename_i hzero
    rw [hzero] at hmagnitude
    exact ⟨x.magnitude % 2 ^ 52, 0, ⟨by omega, .inl rfl⟩, by omega, by omega⟩
  · rename_i hexponent
    refine ⟨_, _, ⟨?_, .inr (Nat.le_add_right (2 ^ 52) (x.magnitude % 2 ^ 52))⟩, rfl, ?_⟩
    · omega
    · omega

theorem ofRatio_of_near {x : Double} (finite : x.isFinite = true) {num den : Nat}
    (near : Near (x.units * den) (num * oneInUnits)) (isNegative : Bool) :
    ofRatio isNegative num den = ofMagnitude isNegative x.magnitude := by
  obtain ⟨k, shift, hsignificand, hunits, hmagnitude⟩ := exists_significand x
  rw [hunits, Nat.mul_assoc] at near
  have hfinite : x.magnitude ≤ infinityBits := Nat.le_of_lt (by simpa [isFinite] using finite)
  rw [ofRatio_eq, roundedMagnitude_of_near hsignificand near, ← hmagnitude,
    Nat.min_eq_right hfinite]

end SegmentRules.Double
