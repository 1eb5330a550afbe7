import SegmentRules.Proofs.Rules.Meaning

/-! # What filters compile to

The checks of the compiler in their order. The first one that a filter fails decides the error; a
filter that passes all of them becomes a condition and a predicate that agree with it. -/
namespace SegmentRules

open Commerce (Predicate)

namespace Catalog

def keys : List String :=
  ["has_subscription_any", "has_subscription_active", "has_subscription_expired",
    "has_subscription_cancelled", "has_subscription_pending", "has_subscription_failing",
    "has_subscription_completed", "subscription_expiring_7d", "subscription_expiring_14d",
    "subscription_expiring_30d", "subscription_expiring_60d"]

end Catalog

namespace Filter

def IsListed (filter : Filter) : Prop := filter.property ∈ Catalog.keys

def IsSelective (filter : Filter) : Prop := ∃ selector, filter.Holds selector

variable {filter : Filter} {selectors : List Selector}

end Filter

/-- The statuses that a condition admits; all of them if there are none. -/
def Kind.admitted : Kind → List Status
  | .hasSubscription none => []
  | .hasSubscription (some status) => [status]
  | .expiringWithin _ => [.active]

namespace Compiler

/-- The window of an expiring condition: it ends with the last second of its last day. -/
def windowAt (siteNow : Timestamp) : Kind → Option Window
  | .hasSubscription _ => none
  | .expiringWithin days => some ⟨siteNow, .endOfDay (siteNow.dayNumber + days.toNat)⟩

/-- The condition and the predicate say what the filter says. -/
structure Answers (compiled : Compiled) (filter : Filter) (siteNow : Timestamp) : Prop where
  listed : compiled.condition.kind ∈ Catalog.kinds
  key : compiled.condition.kind.key = filter.property
  operator : filter.Asks compiled.condition.operator
  selective : compiled.condition.selectors ≠ []
  distinct : compiled.condition.selectors.Nodup
  positive : ∀ s ∈ compiled.condition.selectors, s.product ≠ 0
  held : ∀ s, s ∈ compiled.condition.selectors ↔ filter.Holds s
  selectors : compiled.predicate.selectors = compiled.condition.selectors
  window : compiled.predicate.window = windowAt siteNow compiled.condition.kind
  inYears : ∀ days, compiled.condition.kind = .expiringWithin days →
    siteNow.InYears ∧ siteNow.EndsInYears days
  statuses : compiled.predicate.requiredStatuses = compiled.condition.kind.admitted

/-- The result of compiling a filter. Each error names the first check that fails. An expiring
condition needs a time of the site, and without one the program is broken off. -/
inductive Outcome (enabled : Bool) (siteNow : Timestamp) (filter : Filter) :
    Except RuleError Compiled → Prop
  | unlisted (unlisted : ¬ filter.IsListed) :
      Outcome enabled siteNow filter (.error (.unknownCondition filter.property))
  | disabled (listed : filter.IsListed) (closed : enabled = false) :
      Outcome enabled siteNow filter (.error (.conditionDisabled filter.property))
  | unsupported (listed : filter.IsListed) (opened : enabled = true) (text : String)
      (named : filter.operator = some text) (unknown : ¬ ∃ operator, filter.Asks operator) :
      Outcome enabled siteNow filter (.error (.unsupportedOperator filter.property text))
  | unselective (listed : filter.IsListed) (opened : enabled = true)
      (asks : ∃ operator, filter.Asks operator) (unselective : ¬ filter.IsSelective) :
      Outcome enabled siteNow filter (.error .noSelectors)
  | panicked (days : UInt32) (listed : .expiringWithin days ∈ Catalog.kinds)
      (key : (Kind.expiringWithin days).key = filter.property) (opened : enabled = true)
      (asks : ∃ operator, filter.Asks operator) (selective : filter.IsSelective)
      (outside : ¬ siteNow.InYears) :
      Outcome enabled siteNow filter (.error .panicked)
  | late (days : UInt32) (listed : .expiringWithin days ∈ Catalog.kinds)
      (key : (Kind.expiringWithin days).key = filter.property) (opened : enabled = true)
      (asks : ∃ operator, filter.Asks operator) (selective : filter.IsSelective)
      (inside : siteNow.InYears) (late : ¬ siteNow.EndsInYears days) :
      Outcome enabled siteNow filter (.error (.settings (.windowOutOfRange days)))
  | compiled (compiled : Compiled) (opened : enabled = true)
      (answers : Answers compiled filter siteNow) :
      Outcome enabled siteNow filter (.ok compiled)

end Compiler
end SegmentRules
