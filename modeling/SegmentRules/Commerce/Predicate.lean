import SegmentRules.Commerce.Record
import SegmentRules.Schema
import SegmentRules.Selector
import SegmentRules.Sql.Fragment
import SegmentRules.Status

/-! # Tests of subscription rows -/
namespace SegmentRules.Commerce

/-- Which subscription rows count: those of one of the products, in one of the statuses if there are
any, and, with a window, the active ones that expire in it. -/
structure Predicate where
  selectors : List Selector
  statuses : List Status
  window : Option Window
  deriving DecidableEq, Repr

namespace Predicate

def build (selectors : List Selector) (statuses : List Status) (window : Option Window) :
    Except RuleError Predicate :=
  if selectors.isEmpty then .error .noSelectors else .ok ⟨selectors, statuses, window⟩

/-- The statuses a row may have; all of them if the list is empty. -/
def requiredStatuses (predicate : Predicate) : List Status :=
  match predicate.window with
  | some _ => [.active]
  | none => predicate.statuses

def selectorSql (product price : String) (selector : Selector) : String :=
  match selector.variant with
  | none => "(" ++ product ++ " = ?)"
  | some _ => "(" ++ product ++ " = ? AND " ++ price ++ " = ?)"

def selectorParams (selector : Selector) : List Sql.Value :=
  match selector.variant with
  | none => [.uint selector.product]
  | some variant => [.uint selector.product, .uint variant]

def restrictionSql (predicate : Predicate) (status expiration : String) : String :=
  match predicate.window with
  | some _ =>
    " AND " ++ status ++ " = ? AND " ++ expiration ++ " >= ? AND " ++ expiration ++ " <= ?"
  | none =>
    if predicate.statuses.isEmpty then ""
    else " AND " ++ status ++ " IN (" ++ Sql.placeholders predicate.statuses.length ++ ")"

def restrictionParams (predicate : Predicate) : List Sql.Value :=
  match predicate.window with
  | some window =>
    [.text Status.active.name, .text window.start.bindingText, .text window.finish.bindingText]
  | none => predicate.statuses.map fun status => .text status.name

def render (predicate : Predicate) (tableAlias : String) (columns : SubscriptionColumns) :
    Sql.Fragment :=
  let column (name : String) := tableAlias ++ "." ++ name
  let branches := predicate.selectors.map
    (selectorSql (column columns.productId) (column columns.priceId))
  ⟨"(" ++ String.intercalate " OR " branches ++ ")" ++
      predicate.restrictionSql (column columns.status) (column columns.expiration),
    predicate.selectors.flatMap selectorParams ++ predicate.restrictionParams⟩

def accepts (predicate : Predicate) (row : Subscription) : Bool :=
  let statuses := predicate.requiredStatuses
  predicate.selectors.any (·.selects row.product row.price) &&
    (statuses.isEmpty || statuses.any (·.name == row.status)) &&
    match predicate.window with
    | some window => row.expiration.any window.contains
    | none => true

end Predicate
end SegmentRules.Commerce
