import SegmentRules.Rules.Basic

/-! # Groups of filters and the rules behind them -/
namespace SegmentRules

open Commerce (Store)

/-- The groups on offer, and for each group the rules of its segment filters and automations, all
sorted by group key. -/
structure Registry where
  groups : List (String × FilterGroup)
  segments : List (String × Rules)
  automations : List (String × Rules)

namespace Registry

def empty : Registry := ⟨[], [], []⟩

def addGroup (registry : Registry) (group : FilterGroup) : Registry :=
  { registry with
    groups := Sorted.insertPair Sorted.textBefore group.value group registry.groups }

def addSegment (registry : Registry) (key : String) (rules : Rules) : Registry :=
  { registry with segments := Sorted.insertPair Sorted.textBefore key rules registry.segments }

def addAutomation (registry : Registry) (key : String) (rules : Rules) : Registry :=
  { registry with
    automations := Sorted.insertPair Sorted.textBefore key rules registry.automations }

def addRules (registry : Registry) (rules : Rules) : Registry :=
  ((registry.addGroup rules.compiler.catalog.filterGroup).addSegment Catalog.groupKey
    rules).addAutomation Catalog.groupKey rules

/-- Restrict a query by the filters of a group. Unknown groups restrict nothing. -/
def apply [Store σ] (registry : Registry) (group : String) (filters : List Filter)
    (query : ContactQuery) (store : σ) : Except RuleError Unit × ContactQuery × σ :=
  match registry.segments.lookup group with
  | some rules => rules.apply filters query store
  | none => (.ok (), query, store)

/-- Assess a contact by the filters of a group. Unknown groups leave what was known before. -/
def assess [Store σ] (registry : Registry) (group : String) (contact : Contact)
    (filters : List Filter) (previous : Bool) (store : σ) : Except RuleError Bool × σ :=
  match registry.automations.lookup group with
  | some rules =>
    let (result, store) := rules.assess contact previous filters store
    (result.map Assessment.passed, store)
  | none => (.ok previous, store)

end Registry
end SegmentRules
