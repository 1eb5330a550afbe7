import SegmentRules.Document.Record
import SegmentRules.Json.Basic

/-! # Values decoded from JSON -/
namespace SegmentRules.Json

open Document (FieldName Record)

def bool? : Json → Option Bool
  | .bool value => some value
  | _ => none

def string? : Json → Option String
  | .string value => some value
  | _ => none

def uint64? : Json → Option UInt64
  | .integer n => if 0 ≤ n ∧ n < UInt64.size then some (UInt64.ofNat n.toNat) else none
  | _ => none

def int64? : Json → Option Int64
  | .integer n => if Int64.minValue.toInt ≤ n ∧ n ≤ Int64.maxValue.toInt then
      some (Int64.ofInt n) else none
  | _ => none

def natural? (limit : Nat) : Json → Option Nat
  | .integer n => if 0 ≤ n ∧ n < limit then some n.toNat else none
  | _ => none

def list? (decode : Json → Option α) : Json → Option (List α)
  | .array items => items.mapM decode
  | _ => none

def nullable? (decode : Json → Option α) : Json → Option (Option α)
  | .null => some none
  | value => (decode value).map some

/-- The name of a choice without content: a text, or an object of one null. -/
def choice? : Json → Option String
  | .string name => some name
  | .object [(name, .null)] => some name
  | _ => none

/-- The slots of a record. A list may end early, but not hold more values than there are fields. -/
def record? (fields : List FieldName) : Json → Option (Record Json)
  | .object given => Record.ofNamed? fields given
  | .array items =>
    if fields.length < items.length then none else some (Record.ofValues fields items)
  | _ => none

def ofUInt64 (n : UInt64) : Json := .integer n.toNat

def ofInt64 (n : Int64) : Json := .integer n.toInt

def ofOption (encode : α → Json) : Option α → Json
  | none => .null
  | some value => encode value

def strings (texts : List String) : Json := .array (texts.map .string)

end SegmentRules.Json
