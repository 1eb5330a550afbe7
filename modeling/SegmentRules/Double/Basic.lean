/-! # Binary floating point with 64 bits

A number is its bits. Every finite one is a whole multiple of two to the power −1074, so exact
arithmetic on natural numbers decides every rounding. -/
namespace SegmentRules

structure Double where
  bits : UInt64
  deriving DecidableEq, Repr

namespace Double

/-- The bits of infinity: the largest exponent and an empty fraction. -/
def infinityBits : Nat := 2047 * Nat.pow 2 52

def isNegative (x : Double) : Bool := Nat.pow 2 63 ≤ x.bits.toNat

/-- The bits below the sign. -/
def magnitude (x : Double) : Nat := x.bits.toNat % Nat.pow 2 63

def isNaN (x : Double) : Bool := infinityBits < x.magnitude

def isInfinite (x : Double) : Bool := x.magnitude == infinityBits

def isFinite (x : Double) : Bool := x.magnitude < infinityBits

def isZero (x : Double) : Bool := x.magnitude == 0

def ofMagnitude (isNegative : Bool) (magnitude : Nat) : Double :=
  ⟨UInt64.ofNat (magnitude + if isNegative then Nat.pow 2 63 else 0)⟩

def zero : Double := ofMagnitude false 0
def infinity (isNegative : Bool) : Double := ofMagnitude isNegative infinityBits
def nan (isNegative : Bool) : Double := ofMagnitude isNegative (infinityBits + Nat.pow 2 51)

/-- One in units of two to the power −1074. -/
def oneInUnits : Nat := Nat.pow 2 1074

/-- The absolute value of a finite number in units. -/
def units (x : Double) : Nat :=
  let exponent := x.magnitude / Nat.pow 2 52
  let fraction := x.magnitude % Nat.pow 2 52
  if exponent = 0 then fraction else (Nat.pow 2 52 + fraction) * Nat.pow 2 (exponent - 1)

def signedUnits (x : Double) : Int := if x.isNegative then -(x.units : Int) else x.units

/-- The whole number nearest to a quotient; of two, the even one. -/
def roundHalfEven (num den : Nat) : Nat :=
  let q := num / den
  let r := num % den
  if den < 2 * r ∨ (2 * r = den ∧ q % 2 = 1) then q + 1 else q

def bitLength (n : Nat) : Nat := if n = 0 then 0 else n.log2 + 1

/-- The number nearest to the quotient of two natural numbers; of two, the one with an even
fraction. Quotients beyond the largest number are infinite. -/
def ofRatio (isNegative : Bool) (num den : Nat) : Double :=
  let num := num * oneInUnits
  let shift := bitLength (num / den) - 53
  let fraction := roundHalfEven num (den * Nat.pow 2 shift)
  ofMagnitude isNegative (min infinityBits (shift * Nat.pow 2 52 + fraction))

def ofNat (n : Nat) : Double := ofRatio false n 1

def ofInt (n : Int) : Double := ofRatio (n < 0) n.natAbs 1

/-- The number nearest to `digits · 10 ^ exponent`. Exponents that decide the result alone are not
raised to a power: nothing but zero stays below the smallest or above the largest number there. -/
def ofDecimal (isNegative : Bool) (digits : Nat) (exponent : Int) : Double :=
  if digits = 0 then ofMagnitude isNegative 0
  else if 400 ≤ exponent then infinity isNegative
  else if exponent + bitLength digits < -400 then ofMagnitude isNegative 0
  else if 0 ≤ exponent then ofRatio isNegative (digits * Nat.pow 10 exponent.toNat) 1
  else ofRatio isNegative digits (Nat.pow 10 (-exponent).toNat)

def mul (x y : Double) : Double :=
  ofRatio (x.isNegative != y.isNegative) (x.units * y.units) (oneInUnits * oneInUnits)

def div (x y : Double) : Double :=
  ofRatio (x.isNegative != y.isNegative) x.units y.units

/-- Equality of values: zeros of either sign agree, and nothing agrees with a NaN. -/
def same (x y : Double) : Bool :=
  if x.isNaN || y.isNaN then false
  else x.magnitude == y.magnitude && (x.isNegative == y.isNegative || x.isZero)

def between (x : Double) (low high : Int) : Bool :=
  x.isFinite && low * oneInUnits ≤ x.signedUnits && x.signedUnits ≤ high * oneInUnits

/-- The integer nearest to a finite number; a half goes away from zero. -/
def round (x : Double) : Int :=
  let n : Int := (2 * x.units + oneInUnits) / (2 * oneInUnits)
  if x.isNegative then -n else n

end Double
end SegmentRules
