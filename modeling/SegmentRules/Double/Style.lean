import SegmentRules.Double.Shortest
import SegmentRules.Numeral

/-! # Written forms of a floating-point number -/
namespace SegmentRules.Double

/-- The choices of a format. Numbers whose leading digit is worth a power of ten from `lowest` to
`highest` are written without an exponent. -/
structure Style where
  lowest : Int
  highest : Int
  /-- Whole numbers keep a zero behind the point. -/
  keepsPoint : Bool
  /-- Exponents above zero have a sign. -/
  plusSign : Bool
  tie : Tie
  nanText : String
  signsNan : Bool

def positional (keepsPoint : Bool) (d : Decimal) : String :=
  let text := Numeral.digits 10 d.digits
  if 0 ≤ d.exponent then
    String.ofList (text ++ List.replicate d.exponent.toNat '0') ++ if keepsPoint then ".0" else ""
  else
    let places := (-d.exponent).toNat
    let text := List.replicate (places + 1 - text.length) '0' ++ text
    let whole := text.length - places
    String.ofList (text.take whole ++ '.' :: text.drop whole)

def scientific (plusSign : Bool) (d : Decimal) : String :=
  let text := Numeral.digits 10 d.digits
  let power : Int := d.exponent + (text.length - 1 : Nat)
  let mantissa := match text with
    | [] => []
    | [digit] => [digit]
    | digit :: rest => digit :: '.' :: rest
  String.ofList mantissa ++ "e" ++ (if plusSign && 0 ≤ power then "+" else "") ++
    Numeral.signed power

def unsignedText (style : Style) (x : Double) : String :=
  if x.isZero then if style.keepsPoint then "0.0" else "0"
  else
    let d := shortest style.tie (ofMagnitude false x.magnitude)
    let power : Int := d.exponent + ((Numeral.digits 10 d.digits).length - 1 : Nat)
    if style.lowest ≤ power ∧ power ≤ style.highest then positional style.keepsPoint d
    else scientific style.plusSign d

def text (style : Style) (x : Double) : String :=
  let sign := if x.isNegative then "-" else ""
  if x.isNaN then (if style.signsNan then sign else "") ++ style.nanText
  else if x.isInfinite then sign ++ "inf"
  else sign ++ unsignedText style x

end SegmentRules.Double
