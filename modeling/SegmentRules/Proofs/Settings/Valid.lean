import Mathlib.Algebra.Group.Nat.Defs
import SegmentRules.Settings.Document

/-! # Valid settings

What the checks of settings come to, taken together. -/
namespace SegmentRules.Settings

variable {settings : Settings}

theorem badIdentifier?_eq_none : settings.badIdentifier? = none ↔
    settings.tablePrefix.toList.all isNameChar = true ∧
      ∀ entry ∈ settings.identifiers, isIdentifier entry.2 = true := by
  rw [badIdentifier?]
  by_cases hstart : settings.tablePrefix.toList.all isNameChar = true
  · simp [hstart]
  · simp [hstart]

theorem validate_eq_ok : settings.validate = .ok () ↔
    settings.badIdentifier? = none ∧ settings.utcOffsetHours.between (-14) 14 = true ∧
      settings.commerceProvider ≠ "" ∧ settings.selectorSearchLimit ≠ 0 := by
  rw [validate, fault?]
  cases settings.badIdentifier? with
  | some bad => simp
  | none =>
    by_cases hhours : settings.utcOffsetHours.between (-14) 14 = true
    · by_cases hprovider : settings.commerceProvider = ""
      · simp [hhours, hprovider]
      · by_cases hlimit : settings.selectorSearchLimit = 0
        · simp [hhours, hprovider, hlimit]
        · simp [hhours, hprovider, hlimit]
    · simp [hhours]

theorem isFinite_of_valid (valid : settings.validate = .ok ()) :
    settings.utcOffsetHours.isFinite = true := by
  obtain ⟨-, hbetween, -⟩ := validate_eq_ok.mp valid
  rw [Double.between, Bool.and_eq_true, Bool.and_eq_true] at hbetween
  exact hbetween.1.1

theorem isWritable_iff : settings.isWritable = true ↔
    settings.selectorSearchLimit.toNat ≤ 2 ^ 63 - 1 := by
  have hlimit : Int64.maxValue.toInt = 2 ^ 63 - 1 := by decide
  rw [isWritable, decide_eq_true_eq, hlimit]
  omega

end SegmentRules.Settings
