/-! # Records in documents

A record is written either as named fields or as its fields in declared order. Both forms fill the
same slots. -/
namespace SegmentRules.Document

/-- What stands for one field: a value, nothing under its name, or nothing because a list of values
ended before it. -/
inductive Slot (α : Type)
  | given (value : α)
  | absent
  | unreached

structure Record (α : Type) where
  slots : List (String × Slot α)

/-- A declared field: its name and the other names it may be given by. -/
structure FieldName where
  name : String
  aliases : List String

instance : Coe String FieldName := ⟨fun name => ⟨name, []⟩⟩

def FieldName.admits (field : FieldName) (key : String) : Bool :=
  field.name == key || field.aliases.contains key

/-- The slot of a field among named values; `none` if it is given more than once. -/
def slotOf? (field : FieldName) (given : List (String × α)) : Option (Slot α) :=
  match given.filter fun (key, _) => field.admits key with
  | [] => some .absent
  | [(_, value)] => some (.given value)
  | _ => none

/-- A record from named values. Values under unknown names are ignored. -/
def Record.ofNamed? (fields : List FieldName) (given : List (String × α)) : Option (Record α) := do
  return ⟨← fields.mapM fun field => do return (field.name, ← slotOf? field given)⟩

/-- A record from values in declared order. Values left over are ignored. -/
def Record.ofValues : List FieldName → List α → Record α
  | fields, values => ⟨go fields values⟩
where
  go : List FieldName → List α → List (String × Slot α)
    | [], _ => []
    | field :: fields, [] => (field.name, .unreached) :: go fields []
    | field :: fields, value :: values => (field.name, .given value) :: go fields values

namespace Record

def slot (record : Record α) (name : String) : Slot α :=
  (record.slots.find? (·.1 == name)).elim .absent (·.2)

def required? (record : Record α) (name : String) (decode : α → Option β) : Option β :=
  match record.slot name with
  | .given value => decode value
  | _ => none

def withDefault? (record : Record α) (name : String) (fallback : β) (decode : α → Option β) :
    Option β :=
  match record.slot name with
  | .given value => decode value
  | _ => some fallback

/-- A field that may be left out, but not cut off. -/
def optional? (record : Record α) (name : String) (decode : α → Option (Option β)) :
    Option (Option β) :=
  match record.slot name with
  | .given value => decode value
  | .absent => some none
  | .unreached => none

end Record
end SegmentRules.Document
