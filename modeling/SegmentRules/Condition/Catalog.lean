import SegmentRules.Condition.Kind
import SegmentRules.Sorted

/-! # The catalog of conditions

A condition stays listed while its gate is closed, so that it can be shown as disabled. -/
namespace SegmentRules

structure Gates where
  providers : List String
  recurringBilling : Bool
  deriving DecidableEq, Repr

namespace Gates

def closed : Gates := ⟨[], false⟩

/-- Conditions need the provider's commerce and recurring billing. -/
def areOpen (gates : Gates) (provider : String) : Bool :=
  gates.providers.contains provider && gates.recurringBilling

end Gates

structure ConditionItem where
  value : String
  label : String
  itemType : String
  component : String
  optionKey : String
  isMultiple : Bool
  disabled : Bool
  help : String
  customOperators : List (Operator × String)
  deriving DecidableEq, Repr

structure FilterGroup where
  label : String
  value : String
  children : List ConditionItem
  deriving DecidableEq, Repr

namespace ConditionItem

def operatorBefore : Operator → Operator → Bool
  | .member, .nonMember => true
  | _, _ => false

def operatorsToJson (labels : List (Operator × String)) : Json :=
  .object (labels.map fun (operator, label) => (operator.name, .string label))

/-- Labels by operator; of several for one operator the last stays. -/
def operatorsOfJson? : Json → Option (List (Operator × String))
  | .object fields => fields.foldlM (fun labels (key, label) => do
      return Sorted.insertPair operatorBefore (← Operator.ofName? key) (← label.string?) labels) []
  | _ => none

def toJson (item : ConditionItem) : Json :=
  .object [("value", .string item.value), ("label", .string item.label),
    ("type", .string item.itemType), ("component", .string item.component),
    ("option_key", .string item.optionKey), ("is_multiple", .bool item.isMultiple),
    ("disabled", .bool item.disabled), ("help", .string item.help),
    ("custom_operators", operatorsToJson item.customOperators)]

def ofJson? (value : Json) : Option ConditionItem := do
  let record ← value.record? ["value", "label", "type", "component", "option_key", "is_multiple",
    "disabled", "help", "custom_operators"]
  return ⟨← record.required? "value" Json.string?, ← record.required? "label" Json.string?,
    ← record.required? "type" Json.string?, ← record.required? "component" Json.string?,
    ← record.required? "option_key" Json.string?, ← record.required? "is_multiple" Json.bool?,
    ← record.required? "disabled" Json.bool?, ← record.required? "help" Json.string?,
    ← record.required? "custom_operators" operatorsOfJson?⟩

end ConditionItem

namespace FilterGroup

def toJson (group : FilterGroup) : Json :=
  .object [("label", .string group.label), ("value", .string group.value),
    ("children", .array (group.children.map ConditionItem.toJson))]

def ofJson? (value : Json) : Option FilterGroup := do
  let record ← value.record? ["label", "value", "children"]
  return ⟨← record.required? "label" Json.string?, ← record.required? "value" Json.string?,
    ← record.required? "children" (Json.list? ConditionItem.ofJson?)⟩

end FilterGroup

namespace Catalog

def groupKey : String := "edd_subscriptions"
def groupLabel : String := "EDD Subscriptions"

def optionKey : String := "product_selector_edd_subscriptions"

def expiringDays : List UInt32 := [7, 14, 30, 60]

def kinds : List Kind :=
  .hasSubscription none :: Status.all.map (.hasSubscription ∘ some) ++
    expiringDays.map .expiringWithin

structure Entry where
  kind : Kind
  operators : List Operator
  enabled : Bool
  deriving DecidableEq, Repr

namespace Entry

def key (entry : Entry) : String := entry.kind.key

def allows (entry : Entry) (operator : Operator) : Bool := entry.operators.contains operator

def item (entry : Entry) : ConditionItem where
  value := entry.key
  label := entry.kind.label
  itemType := "selections"
  component := "product_selector"
  optionKey := optionKey
  isMultiple := true
  disabled := !entry.enabled
  help := entry.kind.help
  customOperators := entry.operators.map fun operator =>
    (operator, entry.kind.operatorLabel operator)

end Entry
end Catalog

structure Catalog where
  entries : List Catalog.Entry
  deriving DecidableEq, Repr

namespace Catalog

/-- Every kind with every operator, behind one gate. -/
def withGate (enabled : Bool) : Catalog :=
  ⟨kinds.map fun kind => ⟨kind, Operator.all, enabled⟩⟩

def new (gates : Gates) (provider : String) : Catalog := withGate (gates.areOpen provider)

def get? (catalog : Catalog) (key : String) : Option Entry :=
  catalog.entries.find? (·.key == key)

def entry? (catalog : Catalog) (kind : Kind) : Option Entry :=
  catalog.entries.find? (·.kind == kind)

def filterGroup (catalog : Catalog) : FilterGroup :=
  ⟨groupLabel, groupKey, catalog.entries.map Entry.item⟩

end Catalog
end SegmentRules
