import SegmentRules.Double.Basic

/-! # TOML values -/
namespace SegmentRules.Toml

/-- A TOML value. Dates and times are held as they are written. -/
inductive Value
  | string (value : String)
  | integer (value : Int)
  | float (value : Double)
  | boolean (value : Bool)
  | moment (written : String)
  | array (items : List Value)
  | table (fields : List (String × Value))
  deriving Inhabited, Repr

namespace Value

def field? (value : Value) (key : String) : Option Value :=
  match value with
  | .table fields => fields.lookup key
  | _ => none

def at? : List String → Value → Option Value
  | [], value => some value
  | key :: path, value => (value.field? key).bind (at? path)

def setField (key : String) (value : Value) : List (String × Value) → List (String × Value)
  | [] => []
  | (k, v) :: rest => if k = key then (k, value) :: rest else (k, v) :: setField key value rest

def replaceAt? (replacement : Value) : List String → Value → Option Value
  | [], _ => some replacement
  | key :: path, .table fields => do
    let child ← fields.lookup key
    return .table (setField key (← replaceAt? replacement path child) fields)
  | _ :: _, _ => none

def dottedKey (path key : String) : String := if path.isEmpty then key else path ++ "." ++ key

mutual

/-- The values that are no tables, in order, by their dotted keys. -/
def leaves (path : String) : Value → List (String × Value)
  | .table fields => fieldLeaves path fields
  | .string value => [(path, .string value)]
  | .integer value => [(path, .integer value)]
  | .float value => [(path, .float value)]
  | .boolean value => [(path, .boolean value)]
  | .moment written => [(path, .moment written)]
  | .array items => [(path, .array items)]

def fieldLeaves (path : String) : List (String × Value) → List (String × Value)
  | [] => []
  | (key, value) :: rest => leaves (dottedKey path key) value ++ fieldLeaves path rest

end
end Value
end SegmentRules.Toml
