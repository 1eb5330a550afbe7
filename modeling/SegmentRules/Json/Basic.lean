import SegmentRules.Double.Basic
import SegmentRules.Sorted

/-! # JSON values -/
namespace SegmentRules

/-- A JSON value. Fields keep the order and the repetitions of the text. An integer has 64 bits,
with or without sign; every other number is a double. A text can be well formed and yet denote no
value, as a number that is too large does: it is `unreadable`, and harmless where it is ignored. -/
inductive Json
  | null
  | bool (value : Bool)
  | integer (value : Int)
  | double (value : Double)
  | string (value : String)
  | array (items : List Json)
  | object (fields : List (String × Json))
  | unreadable
  deriving Inhabited, Repr

namespace Json

mutual

/-- The value with sorted fields, of which the last one under a key stays; `none` if some part of
it is unreadable. -/
def normal? : Json → Option Json
  | .null => some .null
  | .bool value => some (.bool value)
  | .integer value => some (.integer value)
  | .double value => some (.double value)
  | .string value => some (.string value)
  | .array items => (normalItems? items).map .array
  | .object fields => (normalFields? fields []).map .object
  | .unreadable => none

def normalItems? : List Json → Option (List Json)
  | [] => some []
  | item :: rest => do return (← normal? item) :: (← normalItems? rest)

def normalFields? : List (String × Json) → List (String × Json) → Option (List (String × Json))
  | [], sorted => some sorted
  | (key, value) :: rest, sorted => do
    let value ← normal? value
    normalFields? rest (Sorted.insertPair Sorted.textBefore key value sorted)

end

def isNull : Json → Bool
  | .null => true
  | _ => false

/-- The value of a field of an object; a missing one is null. -/
def field (value : Json) (key : String) : Json :=
  match value with
  | .object fields => (fields.find? (·.1 == key)).elim .null (·.2)
  | _ => .null

def holdsInteger (n : Int) : Bool := Int64.minValue.toInt ≤ n && n < UInt64.size

end Json
end SegmentRules
