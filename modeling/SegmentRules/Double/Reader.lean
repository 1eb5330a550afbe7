import SegmentRules.Double.Basic
import SegmentRules.Numeral

/-! # Reading a floating-point number -/
namespace SegmentRules.Double

inductive Fault
  | empty
  | invalid
  deriving DecidableEq, Repr

def Fault.message : Fault → String
  | .empty => "cannot parse float from empty string"
  | .invalid => "invalid float literal"

def sign : List Char → Bool × List Char
  | '+' :: rest => (false, rest)
  | '-' :: rest => (true, rest)
  | text => (false, text)

def pointDigits : List Char → List Char × List Char
  | '.' :: rest => rest.span Numeral.isDigit
  | text => ([], text)

def exponent? : List Char → Option Int
  | [] => some 0
  | c :: rest =>
    if c = 'e' ∨ c = 'E' then
      let (isNegative, digits) := sign rest
      if digits.isEmpty || !digits.all Numeral.isDigit then none
      else some (if isNegative then -(Numeral.value digits : Int) else Numeral.value digits)
    else none

/-- A number without its sign: digits with at most one point and a power of ten, or a name in small
or capital letters. -/
def unsigned? (isNegative : Bool) (text : List Char) : Option Double :=
  let name := String.ofList (text.map Char.toLower)
  if name = "inf" ∨ name = "infinity" then some (infinity isNegative)
  else if name = "nan" then some (nan isNegative)
  else
    let (whole, rest) := text.span Numeral.isDigit
    let (fraction, rest) := pointDigits rest
    if whole.isEmpty && fraction.isEmpty then none
    else (exponent? rest).map fun exponent =>
      ofDecimal isNegative (Numeral.value (whole ++ fraction)) (exponent - fraction.length)

def read (text : List Char) : Except Fault Double :=
  if text.isEmpty then .error .empty
  else
    let (isNegative, rest) := sign text
    match unsigned? isNegative rest with
    | some x => .ok x
    | none => .error .invalid

end SegmentRules.Double
