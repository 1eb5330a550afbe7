import SegmentRules.Commerce.Predicate
import SegmentRules.Condition.Filter

/-! # From filters to predicates -/
namespace SegmentRules

/-- What the meaning of a filter depends on: the catalog, the time and the site's distance from UTC
in seconds. -/
structure Compiler where
  catalog : Catalog
  now : Instant
  offset : Int
  deriving DecidableEq, Repr

structure Compiled where
  condition : Condition
  predicate : Commerce.Predicate
  deriving DecidableEq, Repr

namespace Compiler

def window? (compiler : Compiler) (kind : Kind) : Except RuleError (Option Window) :=
  match kind.windowDays with
  | none => .ok none
  | some days => (Window.endingInDays compiler.now days compiler.offset).map some

def predicate (compiler : Compiler) (condition : Condition) :
    Except RuleError Commerce.Predicate := do
  let window ← compiler.window? condition.kind
  Commerce.Predicate.build condition.selectors condition.kind.statuses window

def compile (compiler : Compiler) (filter : Filter) : Except RuleError Compiled := do
  let condition ← Condition.ofFilter filter compiler.catalog
  return ⟨condition, ← compiler.predicate condition⟩

end Compiler
end SegmentRules
