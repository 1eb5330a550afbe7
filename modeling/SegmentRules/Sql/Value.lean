import SegmentRules.Json.Decode
import SegmentRules.Numeral

/-! # Values bound in SQL text -/
namespace SegmentRules.Sql

inductive Value
  | int (value : Int64)
  | uint (value : UInt64)
  | text (value : String)
  deriving DecidableEq, Repr

namespace Value

def escapeQuote (c : Char) : List Char := if c = '\'' then ['\'', '\''] else [c]

def display : Value → String
  | .int value => Numeral.signed value.toInt
  | .uint value => Numeral.decimal value.toNat
  | .text value => String.ofList ('\'' :: value.toList.flatMap escapeQuote ++ ['\''])

/-- Equality in the database: integers are compared by value, with or without sign. -/
def same : Value → Value → Bool
  | .int a, .uint b => a.toInt == b.toNat
  | .uint a, .int b => b.toInt == a.toNat
  | a, b => a == b

/-- Signed integers sort before unsigned ones and these before texts. -/
def le : Value → Value → Bool
  | .int a, .int b => a ≤ b
  | .int _, _ => true
  | .uint _, .int _ => false
  | .uint a, .uint b => a ≤ b
  | .uint _, .text _ => true
  | .text a, .text b => a ≤ b
  | .text _, _ => false

def toJson : Value → Json
  | .int value => .ofInt64 value
  | .uint value => .ofUInt64 value
  | .text value => .string value

/-- An integer is read with a sign if it fits. -/
def ofJson? (value : Json) : Option Value :=
  match value.int64?, value.uint64?, value.string? with
  | some n, _, _ => some (.int n)
  | none, some n, _ => some (.uint n)
  | none, none, some string => some (.text string)
  | none, none, none => none

end Value
end SegmentRules.Sql
