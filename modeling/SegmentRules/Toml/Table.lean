import SegmentRules.Toml.Value

/-! # Building tables

A table is put together from the lines of a document. What may be added to it later depends on how
it came into being. -/
namespace SegmentRules.Toml

/-- Where a table comes from: it is implicit without a header of its own, and dotted if a key with
dots made it. -/
structure Origin where
  isImplicit : Bool
  isDotted : Bool
  deriving DecidableEq, Repr

inductive Node
  | value (value : Value)
  | table (origin : Origin) (fields : List (String × Node))
  | tables (items : List (List (String × Node)))
  deriving Repr

abbrev Fields := List (String × Node)

def Origin.header : Origin := ⟨false, false⟩

def put (key : String) (node : Node) : Fields → Fields
  | [] => [(key, node)]
  | (k, old) :: rest => if k = key then (k, node) :: rest else (k, old) :: put key node rest

/-- Change the table at the end of a path. Missing tables are made; an array of tables stands for
its last one. Keys with dots do not reach into tables that have a header. -/
def update? (isDotted : Bool) (change : Origin → Fields → Option Fields) :
    List String → Origin → Fields → Option Fields
  | [], origin, fields => change origin fields
  | key :: path, _, fields =>
    match fields.lookup key with
    | none => do
      let origin : Origin := ⟨true, isDotted⟩
      return put key (.table origin (← update? isDotted change path origin [])) fields
    | some (.value _) => none
    | some (.tables items) => do
      let last ← items.getLast?
      let last ← update? isDotted change path .header last
      return put key (.tables (items.dropLast ++ [last])) fields
    | some (.table origin inner) => do
      if isDotted ∧ !origin.isImplicit then none
      return put key (.table origin (← update? isDotted change path origin inner)) fields

/-- Add a value under a new key. A key alone does not add to a table that dots made, nor one with
dots to a table that they did not make. -/
def addValue? (path : List String) (key : String) (value : Value) (origin : Origin)
    (fields : Fields) : Option Fields :=
  update? true (fun origin fields => do
    if origin.isDotted = path.isEmpty then none
    if (fields.lookup key).isSome then none
    return fields ++ [(key, .value value)]) path origin fields

def openTable? (key : String) (_ : Origin) (fields : Fields) : Option Fields :=
  match fields.lookup key with
  | none => some (fields ++ [(key, .table .header [])])
  | some (.table origin inner) =>
    if origin.isImplicit ∧ !origin.isDotted then some (put key (.table .header inner) fields)
    else none
  | some _ => none

def openItem? (key : String) (_ : Origin) (fields : Fields) : Option Fields :=
  match fields.lookup key with
  | none => some (fields ++ [(key, .tables [[]])])
  | some (.tables items) => some (put key (.tables (items ++ [[]])) fields)
  | some _ => none

mutual

def Node.toValue : Node → Value
  | .value value => value
  | .table _ fields => .table (fieldsToValues fields)
  | .tables items => .array (itemsToValues items)

def fieldsToValues : List (String × Node) → List (String × Value)
  | [] => []
  | (key, node) :: rest => (key, node.toValue) :: fieldsToValues rest

def itemsToValues : List (List (String × Node)) → List Value
  | [] => []
  | fields :: rest => .table (fieldsToValues fields) :: itemsToValues rest

end
end SegmentRules.Toml
