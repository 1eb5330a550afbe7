import SegmentRules.Condition.Catalog
import SegmentRules.Json.Writer
import SegmentRules.Selector

/-! # Filters as they are stored -/
namespace SegmentRules

/-- A condition as a segment or an automation stores it. The value is one selector token or a list
of them. -/
structure Filter where
  property : String
  operator : Option String
  value : Json
  deriving Repr

namespace Filter

def new (property : String) (operator : Operator) (tokens : List String) : Filter :=
  ⟨property, some operator.name, .strings tokens⟩

def token? : Json → Option String
  | .string text => some text
  | .integer n => some (Numeral.signed n)
  | .double x => some (Json.renderDouble x)
  | _ => none

/-- The selector tokens of the value; anything but texts and numbers holds none. -/
def tokens (filter : Filter) : List String :=
  match filter.value with
  | .array items => items.filterMap token?
  | value => (token? value).toList

def toJson (filter : Filter) : Json :=
  .object [("property", .string filter.property), ("operator", .ofOption .string filter.operator),
    ("value", filter.value)]

/-- Automations name the fields `data_key` and `data_value`. -/
def ofJson? (value : Json) : Option Filter := do
  let record ← value.record?
    [⟨"property", ["data_key"]⟩, ⟨"operator", []⟩, ⟨"value", ["data_value"]⟩]
  return ⟨← record.withDefault? "property" "" Json.string?,
    ← record.withDefault? "operator" none (Json.nullable? Json.string?),
    ← record.withDefault? "value" Json.null Json.normal?⟩

end Filter

/-- A filter that passed the catalog. -/
structure Condition where
  kind : Kind
  operator : Operator
  selectors : List Selector
  deriving DecidableEq, Repr

namespace Condition

/-- The operator of a filter; `in` if it names none. -/
def operatorOf (key : String) : Option String → Except RuleError Operator
  | none => .ok .member
  | some text =>
    if text = "" then .ok .member
    else match Operator.ofName? text with
      | some operator => .ok operator
      | none => .error (.unsupportedOperator key text)

/-- Check a filter against the catalog: the property, its gate, the operator, then the value. A
disabled condition is not looked into. -/
def ofFilter (filter : Filter) (catalog : Catalog) : Except RuleError Condition :=
  match catalog.get? filter.property with
  | none => .error (.unknownCondition filter.property)
  | some entry =>
    if !entry.enabled then .error (.conditionDisabled entry.key)
    else do
      let operator ← operatorOf entry.key filter.operator
      if !entry.allows operator then .error (.unsupportedOperator entry.key operator.name)
      else return ⟨entry.kind, operator, ← Selector.parseAll filter.tokens⟩

end Condition
end SegmentRules
