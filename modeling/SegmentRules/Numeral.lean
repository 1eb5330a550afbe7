/-! # Written numbers -/
namespace SegmentRules.Numeral

def digitChar (digit : Nat) : Char :=
  if digit < 10 then Char.ofNat (48 + digit) else Char.ofNat (87 + digit)

def digit? (c : Char) : Option Nat :=
  if '0' ≤ c ∧ c ≤ '9' then some (c.toNat - 48) else none

def hexDigit? (c : Char) : Option Nat :=
  if '0' ≤ c ∧ c ≤ '9' then some (c.toNat - 48)
  else if 'a' ≤ c ∧ c ≤ 'f' then some (c.toNat - 87)
  else if 'A' ≤ c ∧ c ≤ 'F' then some (c.toNat - 55)
  else none

def isDigit (c : Char) : Bool := (digit? c).isSome

/-- Digits of `n` in front of `tail`; the first argument bounds their number. -/
def digitsOnto (base : Nat) : Nat → Nat → List Char → List Char
  | 0, _, tail => tail
  | bound + 1, n, tail =>
    let tail := digitChar (n % base) :: tail
    if n < base then tail else digitsOnto base bound (n / base) tail

def digits (base n : Nat) : List Char := digitsOnto base (n + 1) n []

def decimal (n : Nat) : String := String.ofList (digits 10 n)

def signed (n : Int) : String := if n < 0 then "-" ++ decimal n.natAbs else decimal n.natAbs

def padded (width n : Nat) : String :=
  let text := digits 10 n
  String.ofList (List.replicate (width - text.length) '0' ++ text)

/-- The value of a list of decimal digits; other characters count as zero. -/
def value (text : List Char) : Nat :=
  text.foldl (fun n c => n * 10 + (digit? c).getD 0) 0

def takeExact? (count : Nat) (text : List Char) : Option (Nat × List Char) :=
  let digits := text.take count
  if digits.length = count ∧ digits.all isDigit then some (value digits, text.drop count) else none

inductive Fault
  | empty
  | invalidDigit
  | tooLarge
  | tooSmall
  deriving DecidableEq, Repr

def Fault.message : Fault → String
  | .empty => "cannot parse integer from empty string"
  | .invalidDigit => "invalid digit found in string"
  | .tooLarge => "number too large to fit in target type"
  | .tooSmall => "number too small to fit in target type"

/-- Read digits after those already worth `n`. The first character that is no digit or that takes
the value above the limit decides the fault. -/
def readOnto (limit : Nat) (overflow : Fault) : Nat → List Char → Except Fault Nat
  | n, [] => .ok n
  | n, c :: rest =>
    match digit? c with
    | none => .error .invalidDigit
    | some d =>
      if limit < n * 10 + d then .error overflow else readOnto limit overflow (n * 10 + d) rest

def readDigits (limit : Nat) (overflow : Fault) : List Char → Except Fault Nat
  | [] => .error .invalidDigit
  | text => readOnto limit overflow 0 text

def readNatural (limit : Nat) : List Char → Except Fault Nat
  | [] => .error .empty
  | '+' :: rest => readDigits limit .tooLarge rest
  | text => readDigits limit .tooLarge text

/-- An optional sign and one or more digits, within 64 bits in two's complement. -/
def readSigned : List Char → Except Fault Int
  | [] => .error .empty
  | '+' :: rest => (readDigits (Nat.pow 2 63 - 1) .tooLarge rest).map Int.ofNat
  | '-' :: rest => (readDigits (Nat.pow 2 63) .tooSmall rest).map fun n => -Int.ofNat n
  | text => (readDigits (Nat.pow 2 63 - 1) .tooLarge text).map Int.ofNat

def uint64? (text : List Char) : Option UInt64 :=
  (readNatural (UInt64.size - 1) text).toOption.map UInt64.ofNat

end SegmentRules.Numeral
