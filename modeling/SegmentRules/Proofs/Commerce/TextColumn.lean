import SegmentRules.Proofs.Calendar.Sorting
import SegmentRules.Proofs.Commerce.PredicateSql

/-! # Columns of texts

A store may keep the times at which subscriptions expire as texts. As these sort like the times, it
selects what a store of times selects. -/
namespace SegmentRules

open Settings (isIdentifier)
open Sql (Column Comparison Datum Formula Row Truth)

namespace Timestamp

def asText (t : Timestamp) : Datum := .text t.bindingText

/-- A time as a column of times holds it, down to the second. -/
def asTime (t : Timestamp) : Datum := .time t.toSecond

end Timestamp

open Timestamp (asText asTime)

/-- A subscription as a row of a store that keeps its expiration in a form of its own. -/
def Commerce.Subscription.rowKept (subscription : Commerce.Subscription) (keep : Timestamp → Datum)
    (tableAlias : String) (columns : SubscriptionColumns) : Row := fun column =>
  if column = ⟨some tableAlias, columns.expiration⟩ then subscription.expiration.map keep
  else subscription.row tableAlias columns column

namespace Commerce.Subscription

variable {tableAlias : String} {columns : SubscriptionColumns} {subscription : Subscription}
  {column : Column} {bound : Timestamp}

theorem rowKept_expiration (keep : Timestamp → Datum) :
    subscription.rowKept keep tableAlias columns ⟨some tableAlias, columns.expiration⟩ =
      subscription.expiration.map keep :=
  if_pos rfl

theorem compare_elsewhere (h : column ≠ ⟨some tableAlias, columns.expiration⟩)
    (keep : Timestamp → Datum) (comparison : Comparison) (value : Sql.Value) :
    (subscription.rowKept keep tableAlias columns).compare column comparison value =
      (subscription.row tableAlias columns).compare column comparison value := by
  simp only [Row.compare, rowKept, if_neg h]

theorem compare_number (column : Column) (id : UInt64) :
    (subscription.rowKept asText tableAlias columns).compare column .equal (.uint id) =
      (subscription.rowKept asTime tableAlias columns).compare column .equal (.uint id) := by
  by_cases hcolumn : column = ⟨some tableAlias, columns.expiration⟩
  · subst hcolumn
    cases hexpiration : subscription.expiration with
    | none => simp [Row.compare, rowKept_expiration, hexpiration]
    | some t =>
      have htext : (Datum.text t.bindingText == .integer id.toNat) = false := rfl
      have htime : (Datum.time t.toSecond == .integer id.toNat) = false := rfl
      simp [Row.compare, rowKept_expiration, hexpiration, asText, asTime, Sql.Value.beside?,
        Sql.Value.datum, Comparison.holds?, htext, htime]
  · rw [compare_elsewhere hcolumn, compare_elsewhere hcolumn]

theorem compare_name (column : Column) {name : String} (h : Timestamp.ofBindingText? name = none)
    (ordinary : ∀ t, subscription.expiration = some t → t.IsOrdinary) :
    (subscription.rowKept asText tableAlias columns).compare column .equal (.text name) = .yes ↔
      (subscription.rowKept asTime tableAlias columns).compare column .equal (.text name) =
        .yes := by
  by_cases hcolumn : column = ⟨some tableAlias, columns.expiration⟩
  · subst hcolumn
    cases hexpiration : subscription.expiration with
    | none => simp [Row.compare, rowKept_expiration, hexpiration]
    | some t =>
      have hother : t.bindingText ≠ name := by
        rintro rfl
        rw [Timestamp.ofBindingText?_of_not_leap (ordinary t hexpiration).noLeap] at h
        cases h
      simp [Row.compare, rowKept_expiration, hexpiration, asText, asTime, Sql.Value.beside?,
        Sql.Value.datum, Comparison.holds?, h, hother]
  · rw [compare_elsewhere hcolumn, compare_elsewhere hcolumn]

theorem compare_bound (bounded : bound.IsOrdinary)
    (ordinary : ∀ t, subscription.expiration = some t → t.IsOrdinary) {comparison : Comparison}
    (h : comparison ≠ .equal) :
    (subscription.rowKept asText tableAlias columns).compare
        ⟨some tableAlias, columns.expiration⟩ comparison (.text bound.bindingText) =
      (subscription.rowKept asTime tableAlias columns).compare
        ⟨some tableAlias, columns.expiration⟩ comparison (.text bound.bindingText) := by
  cases hexpiration : subscription.expiration with
  | none => simp [Row.compare, rowKept_expiration, hexpiration]
  | some t =>
    have ht := ordinary t hexpiration
    have hread : Timestamp.ofBindingText? bound.bindingText = some bound.toSecond :=
      Timestamp.ofBindingText?_of_not_leap bounded.noLeap
    have hbefore : (decide (t.bindingText ≤ bound.bindingText)) = t.toSecond.le bound.toSecond := by
      rw [Bool.eq_iff_iff, decide_eq_true_iff, ht.bindingText_le_iff bounded]
    have hafter : (decide (bound.bindingText ≤ t.bindingText)) = bound.toSecond.le t.toSecond := by
      rw [Bool.eq_iff_iff, decide_eq_true_iff, bounded.bindingText_le_iff ht]
    cases comparison with
    | equal => exact absurd rfl h
    | atLeast =>
      simp [Row.compare, rowKept_expiration, hexpiration, asText, asTime, Sql.Value.beside?,
        Sql.Value.datum, Comparison.holds?, Datum.le?, hread, hafter]
    | atMost =>
      simp [Row.compare, rowKept_expiration, hexpiration, asText, asTime, Sql.Value.beside?,
        Sql.Value.datum, Comparison.holds?, Datum.le?, hread, hbefore]

theorem selector_truth_kept (product price : Column) (selector : Selector) :
    (selector.formula product price).truth (subscription.rowKept asText tableAlias columns) =
      (selector.formula product price).truth (subscription.rowKept asTime tableAlias columns) := by
  obtain ⟨id, variant⟩ := selector
  cases variant with
  | none => simp only [Selector.formula, Formula.truth, compare_number]
  | some variant => simp only [Selector.formula, Formula.truth, compare_number]

end Commerce.Subscription

namespace Commerce.Predicate

variable {tableAlias : String} {columns : SubscriptionColumns} {predicate : Predicate}
  {window : Window} {subscription : Subscription}

theorem restricted_eq_yes (windowed : predicate.window = some window) {row : Row}
    {status expiration : Column} {formula : Formula} :
    (predicate.restricted status expiration formula).truth row = .yes ↔
      ((formula.truth row = .yes ∧
        row.compare status .equal (.text Status.active.name) = .yes) ∧
        row.compare expiration .atLeast (.text window.start.bindingText) = .yes) ∧
        row.compare expiration .atMost (.text window.finish.bindingText) = .yes := by
  simp only [restricted, windowed, Formula.truth, Truth.and_eq_yes]

theorem restricted_kept (windowed : predicate.window = some window)
    (start : window.start.IsOrdinary) (finish : window.finish.IsOrdinary)
    (ordinary : ∀ t, subscription.expiration = some t → t.IsOrdinary)
    {status product price : Column} :
    (predicate.restricted status ⟨some tableAlias, columns.expiration⟩
        (branches product price predicate.selectors)).truth
        (subscription.rowKept asText tableAlias columns) = .yes ↔
      (predicate.restricted status ⟨some tableAlias, columns.expiration⟩
        (branches product price predicate.selectors)).truth
        (subscription.rowKept asTime tableAlias columns) = .yes := by
  have hactive : Timestamp.ofBindingText? Status.active.name = none := by decide
  have hatLeast : Comparison.atLeast ≠ .equal := by decide
  have hatMost : Comparison.atMost ≠ .equal := by decide
  rw [restricted_eq_yes windowed, restricted_eq_yes windowed, branches_eq_yes, branches_eq_yes,
    Subscription.compare_name status hactive ordinary,
    Subscription.compare_bound start ordinary hatLeast,
    Subscription.compare_bound finish ordinary hatMost]
  simp only [Subscription.selector_truth_kept]

end Commerce.Predicate

namespace Timestamp

open Commerce (Predicate Subscription)

/-- The texts of times with years of four digits and no leap second have one length; they are equal
if the times agree down to the second, and their bytes are ordered as the times are without their
fractions. So from a column of texts the condition of a predicate selects the rows that it selects
from a column of times. -/
theorem texts_sort_as_times :
    (∀ a b : Timestamp, a.IsOrdinary → b.IsOrdinary →
      a.bindingText.length = 19 ∧
      (a.bindingText = b.bindingText ↔ a.toSecond = b.toSecond) ∧
      (Text.utf8 a.bindingText ≤ Text.utf8 b.bindingText ↔ a.toSecond.le b.toSecond = true)) ∧
    ∀ (predicate : Predicate) (window : Window) (tableAlias : String)
      (columns : SubscriptionColumns), predicate.selectors ≠ [] →
      predicate.window = some window → window.start.IsOrdinary → window.finish.IsOrdinary →
      isIdentifier tableAlias = true → (∀ name ∈ columns.tested, isIdentifier name = true) →
      ∃ formula, (predicate.render tableAlias columns).formula? = some formula ∧
        ∀ rows : List Subscription,
          (∀ row ∈ rows, ∀ t, row.expiration = some t → t.IsOrdinary) →
          rows.filter (fun row => formula.truth (row.rowKept asText tableAlias columns) = .yes) =
            rows.filter fun row =>
              formula.truth (row.rowKept asTime tableAlias columns) = .yes := by
  constructor
  · intro a b ha hb
    refine ⟨ha.bindingText_length, ha.bindingText_eq_iff hb, ?_⟩
    rw [Text.utf8_le_iff, ha.bindingText_le_iff hb]
  · intro predicate window tableAlias columns nonempty windowed start finish aliased named
    refine ⟨_, predicate.render_formula? nonempty aliased named, fun rows ordinary => ?_⟩
    refine List.filter_congr fun row hrow => ?_
    exact decide_eq_decide.mpr
      (Predicate.restricted_kept windowed start finish (ordinary row hrow))

def newYearsEve : Timestamp := ⟨63965980799, 750000000⟩

def newYear : Timestamp := ⟨63965980800, 0⟩

def lastSeconds : List Subscription :=
  [⟨1, 5, 42, none, "active", some ⟨63965980799, 250000000⟩⟩,
    ⟨2, 5, 42, none, "active", some ⟨63965980798, 0⟩⟩, ⟨3, 5, 42, none, "active", none⟩]

theorem texts_sort_at_newYear :
    newYearsEve.bindingText = "2026-12-31 23:59:59" ∧
    newYear.bindingText = "2027-01-01 00:00:00" ∧
    Text.utf8 newYearsEve.bindingText ≤ Text.utf8 newYear.bindingText ∧
    ¬ Text.utf8 newYear.bindingText ≤ Text.utf8 newYearsEve.bindingText ∧
    ∃ formula,
      (Predicate.render ⟨[⟨42, none⟩], [], some ⟨newYearsEve, newYear⟩⟩ "sub" .standard).formula? =
        some formula ∧
      lastSeconds.filter (fun row => formula.truth (row.rowKept asText "sub" .standard) = .yes) =
        lastSeconds.filter fun row =>
          formula.truth (row.rowKept asTime "sub" .standard) = .yes := by
  obtain ⟨hsort, hselect⟩ := texts_sort_as_times
  have heve : newYearsEve.IsOrdinary := by decide +kernel
  have hnew : newYear.IsOrdinary := by decide +kernel
  obtain ⟨-, -, hbefore⟩ := hsort newYearsEve newYear heve hnew
  obtain ⟨-, -, hafter⟩ := hsort newYear newYearsEve hnew heve
  obtain ⟨formula, hformula, hrows⟩ := hselect ⟨[⟨42, none⟩], [], some ⟨newYearsEve, newYear⟩⟩ _
    "sub" .standard (by decide) rfl heve hnew (by decide) (by decide)
  have hordinary : ∀ row ∈ lastSeconds, ∀ t, row.expiration = some t → t.IsOrdinary := by
    decide +kernel
  exact ⟨by decide +kernel, by decide +kernel, hbefore.mpr (by decide), fun h =>
    absurd (hafter.mp h) (by decide), formula, hformula, hrows lastSeconds hordinary⟩

end Timestamp
end SegmentRules
