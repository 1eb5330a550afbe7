import SegmentRules.Double.Basic

/-! # The fewest digits that read back -/
namespace SegmentRules.Double

/-- The positive number `digits · 10 ^ exponent`. -/
structure Decimal where
  digits : Nat
  exponent : Int
  deriving DecidableEq, Repr

/-- What an exact tie between two decimals of equal length chooses. -/
inductive Tie
  | even
  | up
  deriving DecidableEq, Repr

/-- The largest `p` with `10 ^ p ≤ num / den`, looked for downwards from `start`. -/
def leadingExponent (num den : Nat) : Nat → Int → Int
  | 0, p => p
  | fuel + 1, p =>
    let reached :=
      if 0 ≤ p then Nat.pow 10 p.toNat * den ≤ num else den ≤ num * Nat.pow 10 (-p).toNat
    if reached then p else leadingExponent num den fuel (p - 1)

def readsAs (x : Double) (d : Decimal) : Bool := ofDecimal false d.digits d.exponent == x

/-- The decimal with the given least exponent that reads back as `x`, the nearer one of two. -/
def onGrid? (tie : Tie) (x : Double) (exponent : Int) : Option Decimal :=
  let num := if 0 ≤ exponent then x.units else x.units * Nat.pow 10 (-exponent).toNat
  let den := if 0 ≤ exponent then oneInUnits * Nat.pow 10 exponent.toNat else oneInUnits
  let below : Decimal := ⟨num / den, exponent⟩
  let above : Decimal := ⟨num / den + 1, exponent⟩
  let twice := 2 * (num % den)
  let preferAbove :=
    den < twice || (twice == den && (tie == .up || below.digits % 2 == 1))
  let (first, second) := if preferAbove then (above, below) else (below, above)
  if readsAs x first then some first else if readsAs x second then some second else none

/-- The first grid from `count` digits on that has a decimal for `x`. -/
def shortestFrom (tie : Tie) (x : Double) (leading : Int) : Nat → Nat → Decimal
  | 0, _ => ⟨0, 0⟩
  | fuel + 1, count =>
    match onGrid? tie x (leading - count + 1) with
    | some d => d
    | none => shortestFrom tie x leading fuel (count + 1)

def Decimal.strip : Nat → Decimal → Decimal
  | 0, d => d
  | fuel + 1, d =>
    if d.digits ≠ 0 ∧ d.digits % 10 = 0 then strip fuel ⟨d.digits / 10, d.exponent + 1⟩ else d

/-- The shortest decimal that reads back as the positive finite number `x`. Seventeen digits
always do. -/
def shortest (tie : Tie) (x : Double) : Decimal :=
  let leading := leadingExponent x.units oneInUnits 640 310
  (shortestFrom tie x leading 17 1).strip 20

end SegmentRules.Double
