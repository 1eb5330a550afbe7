import SegmentRules.Json.Basic
import SegmentRules.Numeral

/-! # Numbers in JSON text

A number without fraction and exponent that fits 64 bits is exact. Any other one is the double got
from its leading digits, as many as fit 64 bits, by one multiplication or division with a power of
ten: quick to compute, and one rounding away from the nearest double. -/
namespace SegmentRules.Json

structure NumberText where
  isNegative : Bool
  whole : List Char
  fraction : Option (List Char)
  exponent : Option (Bool × List Char)
  deriving DecidableEq, Repr

def takeDigits? (text : List Char) : Option (List Char × List Char) :=
  match text.span Numeral.isDigit with
  | ([], _) => none
  | parts => some parts

def readFraction? : List Char → Option (Option (List Char) × List Char)
  | '.' :: text => (takeDigits? text).map fun (digits, rest) => (some digits, rest)
  | text => some (none, text)

def exponentSign : List Char → Bool × List Char
  | '+' :: text => (false, text)
  | '-' :: text => (true, text)
  | text => (false, text)

def readExponent? (text : List Char) : Option (Option (Bool × List Char) × List Char) :=
  match text with
  | c :: rest =>
    if c = 'e' ∨ c = 'E' then
      let (sign, rest) := exponentSign rest
      (takeDigits? rest).map fun (digits, rest) => (some (sign, digits), rest)
    else some (none, text)
  | [] => some (none, [])

/-- A number at the start of a text. No zero stands before its first digit. -/
def NumberText.read? (text : List Char) : Option (NumberText × List Char) := do
  let (sign, text) := match text with
    | '-' :: text => (true, text)
    | text => (false, text)
  let (whole, text) ← takeDigits? text
  if whole.head? = some '0' ∧ whole.length ≠ 1 then none
  let (fraction, text) ← readFraction? text
  let (exponent, text) ← readExponent? text
  return (⟨sign, whole, fraction, exponent⟩, text)

/-- Take digits into a significand of 64 bits while they fit: the significand, how many digits
were taken, and how many were not. -/
def takeSignificand : Nat → Nat → List Char → Nat × Nat × Nat
  | n, taken, [] => (n, taken, 0)
  | n, taken, c :: rest =>
    let next := n * 10 + (Numeral.digit? c).getD 0
    if UInt64.size ≤ next then (n, taken, rest.length + 1)
    else takeSignificand next (taken + 1) rest

/-- Bring a number at most 10^308 by division to an exponent of at least −308. -/
def lowerExponent : Nat → Double → Int → Double × Int
  | 0, x, exponent => (x, exponent)
  | fuel + 1, x, exponent =>
    if -308 ≤ exponent ∨ x.isZero then (x, exponent)
    else lowerExponent fuel (x.div (Double.ofNat (Nat.pow 10 308))) (exponent + 308)

/-- A significand times a power of ten; `none` if the result is infinite. -/
def scale? (significand : Nat) (exponent : Int) : Option Double :=
  let x := Double.ofNat significand
  if 308 < exponent then if x.isZero then some x else none
  else if 0 ≤ exponent then
    let y := x.mul (Double.ofNat (Nat.pow 10 exponent.toNat))
    if y.isInfinite then none else some y
  else
    let (x, exponent) := lowerExponent 4 x exponent
    if x.isZero then some x else some (x.div (Double.ofNat (Nat.pow 10 (-exponent).toNat)))

/-- The double a number denotes, from the significand and exponent of the digits before the power
of ten. A power with an exponent of more than 31 bits leaves only zero. -/
def NumberText.double? (number : NumberText) (significand : Nat) (exponent : Int) :
    Option Double := do
  let x ← match number.exponent with
    | none => scale? significand exponent
    | some (sign, digits) =>
      let power := Numeral.value digits
      if Nat.pow 2 31 ≤ power then
        if significand ≠ 0 ∧ !sign then none else some Double.zero
      else scale? significand (if sign then exponent - power else exponent + power)
  return Double.ofMagnitude number.isNegative x.magnitude

/-- The value of a number; `none` if it is too large for a double. -/
def NumberText.value? (number : NumberText) : Option Json :=
  let (significand, _, dropped) := takeSignificand 0 0 number.whole
  match number.fraction, number.exponent with
  | none, none =>
    let n : Int := if number.isNegative then -(significand : Int) else significand
    if dropped = 0 ∧ holdsInteger n ∧ (number.isNegative → n ≠ 0) then some (.integer n)
    else (number.double? significand dropped).map .double
  | fraction, _ =>
    let (significand, places, _) := takeSignificand significand 0 (fraction.getD [])
    (number.double? significand (dropped - places)).map .double

end SegmentRules.Json
