import SegmentRules.Sql.Value

/-! # SQL text with its values -/
namespace SegmentRules.Sql

/-- SQL text and the values of its placeholders, in their order in the text. -/
structure Fragment where
  sql : String
  params : List Value
  deriving DecidableEq, Repr

def placeholders (count : Nat) : String := String.intercalate ", " (List.replicate count "?")

namespace Fragment

def placeholderCount (fragment : Fragment) : Nat := fragment.sql.toList.count '?'

def toJson (fragment : Fragment) : Json :=
  .object [("sql", .string fragment.sql), ("params", .array (fragment.params.map Value.toJson))]

def ofJson? (value : Json) : Option Fragment := do
  let record ← value.record? ["sql", "params"]
  return ⟨← record.required? "sql" Json.string?,
    ← record.required? "params" (Json.list? Value.ofJson?)⟩

end Fragment
end SegmentRules.Sql
