import Mathlib.Logic.Basic
import SegmentRules.Commerce.Query
import SegmentRules.Proofs.Selector
import SegmentRules.Proofs.Sql.Phrase

/-! # The SQL of predicates

The text for the database is true of the rows that the test in memory accepts. -/
namespace SegmentRules

open Settings (isIdentifier)
open Sql (Column Formula IsBody IsColumn IsTail Reading Row)

def SubscriptionColumns.tested (columns : SubscriptionColumns) : List String :=
  [columns.productId, columns.priceId, columns.status, columns.expiration]

/-! ## The formula of a predicate -/

def Selector.formula (product price : Column) (selector : Selector) : Formula :=
  match selector.variant with
  | none => .compare product .equal (.uint selector.product)
  | some variant =>
    .both (.compare product .equal (.uint selector.product)) (.compare price .equal (.uint variant))

namespace Commerce.Predicate

def alternativesFrom (product price : Column) (reading : Reading) : List Selector → Reading
  | [] => reading
  | selector :: rest =>
    alternativesFrom product price (reading.disj.fill (selector.formula product price)) rest

def branches (product price : Column) : List Selector → Formula
  | [] => .constant false
  | first :: rest =>
    (alternativesFrom product price ⟨none, first.formula product price⟩ rest).formula

def restricted (predicate : Predicate) (status expiration : Column) (formula : Formula) :
    Formula :=
  match predicate.window with
  | some window =>
    .both (.both (.both formula (.compare status .equal (.text Status.active.name)))
      (.compare expiration .atLeast (.text window.start.bindingText)))
      (.compare expiration .atMost (.text window.finish.bindingText))
  | none =>
    if predicate.statuses.isEmpty then formula
    else .both formula (.among status (predicate.statuses.map fun status => .text status.name))

/-! ## The text is read as the formula -/

section Reading

variable {productText priceText statusText expirationText : String}
  {product price status expiration : Column}

theorem selector_reads (hproduct : IsColumn productText product)
    (hprice : IsColumn priceText price) (selector : Selector) :
    IsBody (selectorSql productText priceText selector) (selectorParams selector)
      (·.fill (selector.formula product price)) := by
  obtain ⟨id, variant⟩ := selector
  have hid := hproduct.compare .equal (.uint id)
  cases variant with
  | none =>
    have htext : selectorSql productText priceText ⟨id, none⟩ =
        "(" ++ (productText ++ Sql.Comparison.equal.sql) ++ ")" := by
      simp [selectorSql, Sql.Comparison.sql, String.append_assoc]
    rw [htext]
    exact hid.group
  | some variant =>
    have hvariant := hprice.compare .equal (.uint variant)
    have htext : selectorSql productText priceText ⟨id, some variant⟩ =
        "(" ++ (productText ++ Sql.Comparison.equal.sql ++
          (" AND " ++ (priceText ++ Sql.Comparison.equal.sql))) ++ ")" := by
      have hand : " = ? AND " = " = ?" ++ " AND " := by decide
      simp [selectorSql, Sql.Comparison.sql, String.append_assoc]
      rw [hand, String.append_assoc]
    rw [htext]
    exact (hid.append hvariant.conj).group

theorem alternatives_read (hproduct : IsColumn productText product)
    (hprice : IsColumn priceText price) (first : Selector) (rest : List Selector) :
    IsBody (String.intercalate " OR " ((first :: rest).map (selectorSql productText priceText)))
      ((first :: rest).flatMap selectorParams)
      (fun slot => alternativesFrom product price (slot.fill (first.formula product price))
        rest) := by
  have hfirst := selector_reads hproduct hprice first
  induction rest generalizing first with
  | nil => simpa [alternativesFrom] using hfirst
  | cons second rest ih =>
    have hrest := ih second (selector_reads hproduct hprice second)
    have hall := hfirst.append hrest.disj
    simpa [alternativesFrom, Function.comp_def, String.append_assoc] using hall

theorem branches_read (hproduct : IsColumn productText product) (hprice : IsColumn priceText price)
    {selectors : List Selector} (nonempty : selectors ≠ []) :
    IsBody ("(" ++ String.intercalate " OR " (selectors.map (selectorSql productText priceText)) ++
        ")") (selectors.flatMap selectorParams) (·.fill (branches product price selectors)) := by
  cases selectors with
  | nil => exact absurd rfl nonempty
  | cons first rest => exact (alternatives_read hproduct hprice first rest).group

theorem restriction_reads (predicate : Predicate) (hstatus : IsColumn statusText status)
    (hexpiration : IsColumn expirationText expiration) :
    IsTail (predicate.restrictionSql statusText expirationText) predicate.restrictionParams
      (fun reading =>
        ⟨reading.alternatives, predicate.restricted status expiration reading.term⟩) := by
  obtain ⟨selectors, statuses, window⟩ := predicate
  cases window with
  | some window =>
    have hactive := hstatus.compare .equal (.text Status.active.name)
    have hstart := hexpiration.compare .atLeast (.text window.start.bindingText)
    have hfinish := hexpiration.compare .atMost (.text window.finish.bindingText)
    have htext : restrictionSql ⟨selectors, statuses, some window⟩ statusText expirationText =
        " AND " ++ (statusText ++ Sql.Comparison.equal.sql) ++
          (" AND " ++ (expirationText ++ Sql.Comparison.atLeast.sql) ++
            (" AND " ++ (expirationText ++ Sql.Comparison.atMost.sql))) := by
      have hequal : " = ? AND " = " = ?" ++ " AND " := by decide
      have hatLeast : " >= ? AND " = " >= ?" ++ " AND " := by decide
      simp [restrictionSql, Sql.Comparison.sql, String.append_assoc]
      rw [hequal, hatLeast, String.append_assoc, String.append_assoc]
    rw [htext]
    exact hactive.conj.append (hstart.conj.append hfinish.conj)
  | none =>
    by_cases hempty : statuses = []
    · subst hempty
      exact Sql.isTail_empty
    · have hlist := hstatus.membership false
        (by simpa using hempty : statuses.map (fun status => Sql.Value.text status.name) ≠ [])
      simpa [restrictionSql, restrictionParams, restricted, hempty, Function.comp_def,
        Sql.Reading.conj, Sql.Slot.fill, String.append_assoc] using hlist.conj

end Reading

theorem render_reads (predicate : Predicate) {tableAlias : String} {columns : SubscriptionColumns}
    (nonempty : predicate.selectors ≠ []) (aliased : isIdentifier tableAlias = true)
    (named : ∀ name ∈ columns.tested, isIdentifier name = true) :
    IsBody (predicate.render tableAlias columns).sql (predicate.render tableAlias columns).params
      (fun slot => ⟨slot.alternatives,
        predicate.restricted ⟨some tableAlias, columns.status⟩ ⟨some tableAlias, columns.expiration⟩
          (slot.fill (branches ⟨some tableAlias, columns.productId⟩
            ⟨some tableAlias, columns.priceId⟩ predicate.selectors)).term⟩) := by
  have hcolumn : ∀ name ∈ columns.tested,
      IsColumn (tableAlias ++ "." ++ name) ⟨some tableAlias, name⟩ :=
    fun name hname => Sql.isColumn_qualified aliased (named name hname)
  simp only [SubscriptionColumns.tested, List.forall_mem_cons] at hcolumn
  obtain ⟨hproduct, hprice, hstatus, hexpiration, -⟩ := hcolumn
  exact (branches_read hproduct hprice nonempty).append
    (restriction_reads predicate hstatus hexpiration)

theorem render_formula? (predicate : Predicate) {tableAlias : String}
    {columns : SubscriptionColumns} (nonempty : predicate.selectors ≠ [])
    (aliased : isIdentifier tableAlias = true)
    (named : ∀ name ∈ columns.tested, isIdentifier name = true) :
    (predicate.render tableAlias columns).formula? =
      some (predicate.restricted ⟨some tableAlias, columns.status⟩
        ⟨some tableAlias, columns.expiration⟩
        (branches ⟨some tableAlias, columns.productId⟩ ⟨some tableAlias, columns.priceId⟩
          predicate.selectors)) :=
  (predicate.render_reads nonempty aliased named).formula?

end Commerce.Predicate

/-! ## The formula is true of the rows that the predicate accepts -/

theorem SubscriptionColumns.tested_apart (columns : SubscriptionColumns)
    (distinct : columns.tested.Nodup) :
    columns.priceId ≠ columns.productId ∧ columns.status ≠ columns.productId ∧
      columns.status ≠ columns.priceId ∧ columns.expiration ≠ columns.productId ∧
      columns.expiration ≠ columns.priceId ∧ columns.expiration ≠ columns.status := by
  simp only [tested, List.nodup_cons, List.mem_cons, List.not_mem_nil, or_false, not_or] at distinct
  obtain ⟨⟨h1, h2, h3⟩, ⟨h4, h5⟩, h6, -⟩ := distinct
  exact ⟨Ne.symm h1, Ne.symm h2, Ne.symm h4, Ne.symm h3, Ne.symm h5, Ne.symm h6⟩

/-- A subscription as a row of a table with an alias and these columns. -/
def Commerce.Subscription.row (subscription : Commerce.Subscription) (tableAlias : String)
    (columns : SubscriptionColumns) : Row := fun column =>
  if column.table = some tableAlias then
    ([(columns.productId, some (.integer subscription.product.toNat)),
      (columns.priceId, subscription.price.map fun price => .integer price.toNat),
      (columns.status, some (.text subscription.status)),
      (columns.expiration, subscription.expiration.map .time),
      (columns.customerId, some (.integer subscription.customer.toNat)),
      (columns.id, some (.integer subscription.id.toNat))].lookup column.name).join
  else none

namespace Commerce.Subscription

variable {tableAlias : String} {columns : SubscriptionColumns} (subscription : Subscription)

theorem row_product : subscription.row tableAlias columns ⟨some tableAlias, columns.productId⟩ =
    some (Sql.Value.uint subscription.product).datum := by
  simp [row, Sql.Value.datum]

theorem row_price (distinct : columns.tested.Nodup) :
    subscription.row tableAlias columns ⟨some tableAlias, columns.priceId⟩ =
      (subscription.price.map .uint).map Sql.Value.datum := by
  obtain ⟨hproduct, -⟩ := columns.tested_apart distinct
  simp [row, List.lookup_cons, beq_false_of_ne hproduct, Sql.Value.datum, Function.comp_def]

theorem row_status (distinct : columns.tested.Nodup) :
    subscription.row tableAlias columns ⟨some tableAlias, columns.status⟩ =
      some (Sql.Value.text subscription.status).datum := by
  obtain ⟨-, hproduct, hprice, -⟩ := columns.tested_apart distinct
  simp [row, List.lookup_cons, beq_false_of_ne hproduct, beq_false_of_ne hprice, Sql.Value.datum]

theorem row_expiration (distinct : columns.tested.Nodup) :
    subscription.row tableAlias columns ⟨some tableAlias, columns.expiration⟩ =
      subscription.expiration.map .time := by
  obtain ⟨-, -, -, hproduct, hprice, hstatus⟩ := columns.tested_apart distinct
  simp [row, List.lookup_cons, beq_false_of_ne hproduct, beq_false_of_ne hprice,
    beq_false_of_ne hstatus]

theorem row_customer (apart : columns.customerId ∉ columns.tested) :
    subscription.row tableAlias columns ⟨some tableAlias, columns.customerId⟩ =
      some (Sql.Value.uint subscription.customer).datum := by
  obtain ⟨hproduct, hprice, hstatus, hexpiration⟩ : columns.customerId ≠ columns.productId ∧
      columns.customerId ≠ columns.priceId ∧ columns.customerId ≠ columns.status ∧
      columns.customerId ≠ columns.expiration := by
    simpa [SubscriptionColumns.tested] using apart
  simp [row, List.lookup_cons, beq_false_of_ne hproduct, beq_false_of_ne hprice,
    beq_false_of_ne hstatus, beq_false_of_ne hexpiration, Sql.Value.datum]

end Commerce.Subscription

namespace Commerce.Predicate

section Truth

theorem alternativesFrom_eq_yes {row : Row} {product price : Column} (selectors : List Selector)
    (reading : Reading) :
    (alternativesFrom product price reading selectors).formula.truth row = .yes ↔
      reading.formula.truth row = .yes ∨
        ∃ selector ∈ selectors, (selector.formula product price).truth row = .yes := by
  induction selectors generalizing reading with
  | nil => simp [alternativesFrom]
  | cons selector rest ih =>
    rw [alternativesFrom, ih, Sql.Reading.formula_eq_yes]
    simp only [Sql.Reading.disj, Sql.Slot.fill, Option.mem_some, exists_eq_left', List.mem_cons,
      exists_eq_or_imp, or_assoc]

theorem branches_eq_yes {row : Row} {product price : Column} {selectors : List Selector} :
    (branches product price selectors).truth row = .yes ↔
      ∃ selector ∈ selectors, (selector.formula product price).truth row = .yes := by
  cases selectors with
  | nil => simp [branches, Formula.truth]
  | cons first rest =>
    rw [branches, alternativesFrom_eq_yes, Sql.Reading.formula_eq_yes]
    simp

variable {tableAlias : String} {columns : SubscriptionColumns} {subscription : Subscription}

theorem selector_truth (distinct : columns.tested.Nodup) (selector : Selector) :
    (selector.formula ⟨some tableAlias, columns.productId⟩
        ⟨some tableAlias, columns.priceId⟩).truth (subscription.row tableAlias columns) = .yes ↔
      selector.selects subscription.product subscription.price = true := by
  have hproduct : ∀ id, (subscription.row tableAlias columns).compare
      ⟨some tableAlias, columns.productId⟩ .equal (.uint id) = .yes ↔
        id = subscription.product := by
    intro id
    rw [Row.compare_equal_datum subscription.row_product]
    simpa [Sql.Value.same] using eq_comm
  have hprice : ∀ id, (subscription.row tableAlias columns).compare
      ⟨some tableAlias, columns.priceId⟩ .equal (.uint id) = .yes ↔
        subscription.price = some id := by
    intro id
    have hrow : subscription.row tableAlias columns ⟨some tableAlias, columns.priceId⟩ =
      (subscription.price.map .uint).map Sql.Value.datum := subscription.row_price distinct
    cases hprice : subscription.price with
    | none => simp [Row.compare_null (by simpa [hprice] using hrow)]
    | some price =>
      have hheld : subscription.row tableAlias columns ⟨some tableAlias, columns.priceId⟩ =
        some (Sql.Value.uint price).datum := by simpa [hprice] using hrow
      rw [Row.compare_equal_datum hheld]
      simp [Sql.Value.same]
  obtain ⟨id, variant⟩ := selector
  rw [Selector.selects_iff]
  cases variant with
  | none => simp [Selector.formula, Formula.truth, hproduct]
  | some variant => simp [Selector.formula, Formula.truth, hproduct, hprice]

theorem branches_truth (distinct : columns.tested.Nodup) (selectors : List Selector) :
    (branches ⟨some tableAlias, columns.productId⟩ ⟨some tableAlias, columns.priceId⟩
        selectors).truth (subscription.row tableAlias columns) = .yes ↔
      ∃ selector ∈ selectors, selector.selects subscription.product subscription.price = true := by
  simp only [branches_eq_yes, selector_truth distinct]

theorem status_truth (distinct : columns.tested.Nodup) (status : Status) :
    (subscription.row tableAlias columns).compare ⟨some tableAlias, columns.status⟩ .equal
        (.text status.name) = .yes ↔ status.name = subscription.status := by
  rw [Row.compare_equal_datum (subscription.row_status distinct)]
  simpa [Sql.Value.same] using eq_comm

/-- A bound to the second is compared as the time it is. -/
theorem expiration_truth (distinct : columns.tested.Nodup) {bound : Timestamp}
    (whole : bound.nanos = 0) (comparison : Sql.Comparison) :
    (subscription.row tableAlias columns).compare ⟨some tableAlias, columns.expiration⟩ comparison
        (.text bound.bindingText) = .yes ↔
      ∃ t, subscription.expiration = some t ∧
        comparison.holds? (.time t) (.time bound) = some true := by
  have hrow : subscription.row tableAlias columns ⟨some tableAlias, columns.expiration⟩ =
    subscription.expiration.map .time := subscription.row_expiration distinct
  have hbound : ⟨bound.seconds, 0⟩ = bound := by rw [← whole]
  have hleap : bound.isLeapSecond = false := by simp [Timestamp.isLeapSecond, whole]
  cases hexpiration : subscription.expiration with
  | none => simp [Row.compare_null (by simpa [hexpiration] using hrow)]
  | some t =>
    have hbeside : (Sql.Value.text bound.bindingText).beside? (.time t) = some (.time bound) := by
      simp [Sql.Value.beside?, Timestamp.ofBindingText?_of_not_leap hleap, hbound]
    rw [Row.compare, hrow, hexpiration]
    simp only [Option.map_some, hbeside, Option.bind_some]
    cases hholds : comparison.holds? (.time t) (.time bound) <;> simp [hholds]

theorem restricted_truth (distinct : columns.tested.Nodup) (predicate : Predicate)
    (whole : ∀ window, predicate.window = some window →
      window.start.nanos = 0 ∧ window.finish.nanos = 0) (formula : Formula) :
    (predicate.restricted ⟨some tableAlias, columns.status⟩ ⟨some tableAlias, columns.expiration⟩
        formula).truth (subscription.row tableAlias columns) = .yes ↔
      formula.truth (subscription.row tableAlias columns) = .yes ∧
        (predicate.requiredStatuses = [] ∨
          ∃ status ∈ predicate.requiredStatuses, status.name = subscription.status) ∧
        ∀ window, predicate.window = some window →
          ∃ t, subscription.expiration = some t ∧ window.contains t = true := by
  obtain ⟨selectors, statuses, window⟩ := predicate
  cases window with
  | some window =>
    obtain ⟨hstart, hfinish⟩ := whole window rfl
    simp only [restricted, Formula.truth, Sql.Truth.and_eq_yes, status_truth distinct,
      expiration_truth distinct hstart, expiration_truth distinct hfinish, requiredStatuses,
      Sql.Comparison.holds?, Sql.Datum.le?, Window.contains, Bool.and_eq_true, Option.some.injEq,
      List.mem_singleton, exists_eq_left, forall_eq', List.cons_ne_nil, false_or]
    constructor
    · rintro ⟨⟨⟨hformula, hactive⟩, t, ht, hle⟩, t', ht', hle'⟩
      obtain rfl : t = t' := Option.some.inj (ht.symm.trans ht')
      exact ⟨hformula, hactive, t, ht, hle, hle'⟩
    · rintro ⟨hformula, hactive, t, ht, hle, hle'⟩
      exact ⟨⟨⟨hformula, hactive⟩, t, ht, hle⟩, t, ht, hle'⟩
  | none =>
    by_cases hempty : statuses = []
    · simp [restricted, requiredStatuses, hempty]
    · simp [restricted, requiredStatuses, hempty, Formula.truth, Row.among_eq_yes,
        status_truth distinct, exists_exists_and_eq_and]

theorem accepts_iff_restricted (predicate : Predicate) (subscription : Subscription) :
    predicate.accepts subscription = true ↔
      (∃ selector ∈ predicate.selectors,
          selector.selects subscription.product subscription.price = true) ∧
        (predicate.requiredStatuses = [] ∨
          ∃ status ∈ predicate.requiredStatuses, status.name = subscription.status) ∧
        ∀ window, predicate.window = some window →
          ∃ t, subscription.expiration = some t ∧ window.contains t = true := by
  obtain ⟨selectors, statuses, window⟩ := predicate
  cases window with
  | none => simp [accepts, requiredStatuses]
  | some window => simp [accepts, requiredStatuses, and_assoc, Option.any_eq_true]

end Truth

/-- A predicate's text is read as a condition that is true of exactly the rows the predicate
accepts; and so is the text of the question about one customer, between its WHERE and its LIMIT,
for the rows of this customer. -/
theorem render_selects_accepted (predicate : Predicate) (schema : Schema) (tableAlias : String)
    (nonempty : predicate.selectors ≠ [])
    (whole : ∀ window, predicate.window = some window →
      window.start.nanos = 0 ∧ window.finish.nanos = 0)
    (aliased : isIdentifier tableAlias = true)
    (named : ∀ name ∈ schema.subscription.customerId :: schema.subscription.tested,
      isIdentifier name = true)
    (distinct : schema.subscription.tested.Nodup) :
    (∃ formula, (predicate.render tableAlias schema.subscription).formula? = some formula ∧
      ∀ subscription : Subscription,
        formula.truth (subscription.row tableAlias schema.subscription) = .yes ↔
          predicate.accepts subscription = true) ∧
    (schema.subscription.customerId ∉ schema.subscription.tested → ∀ customer : UInt64,
      ∃ text formula,
        (CustomerSubscriptionQuery.new schema customer predicate).fragment.sql =
          "SELECT " ++ subscriptionAlias ++ "." ++ schema.subscription.id ++ " FROM " ++
            schema.subscriptionsTable ++ " AS " ++ subscriptionAlias ++ " WHERE " ++ text ++
            " LIMIT 1" ∧
        Sql.Fragment.formula?
          ⟨text, (CustomerSubscriptionQuery.new schema customer predicate).fragment.params⟩ =
            some formula ∧
        ∀ subscription : Subscription,
          formula.truth (subscription.row subscriptionAlias schema.subscription) = .yes ↔
            subscription.customer = customer ∧ predicate.accepts subscription = true) := by
  obtain ⟨hcustomerId, hnames⟩ := List.forall_mem_cons.mp named
  constructor
  · refine ⟨_, (predicate.render_reads nonempty aliased hnames).formula?, fun subscription => ?_⟩
    rw [accepts_iff_restricted, ← branches_truth distinct]
    exact restricted_truth distinct predicate whole _
  · intro apart customer
    have hsub : isIdentifier subscriptionAlias = true := by decide
    have hcustomer :=
      (Sql.isColumn_qualified hsub hcustomerId).compare .equal (.uint customer)
    have hbody := hcustomer.append (predicate.render_reads nonempty hsub hnames).conj
    refine ⟨subscriptionAlias ++ "." ++ schema.subscription.customerId ++
      Sql.Comparison.equal.sql ++
        (" AND " ++ (predicate.render subscriptionAlias schema.subscription).sql), _, ?_,
      hbody.formula?, fun subscription => ?_⟩
    · have hand : " = ? AND " = " = ?" ++ " AND " := by decide
      simp only [CustomerSubscriptionQuery.new, Sql.Comparison.sql, String.append_assoc]
      rw [hand, String.append_assoc]
    · have hcustomerTruth : (subscription.row subscriptionAlias schema.subscription).compare
          ⟨some subscriptionAlias, schema.subscription.customerId⟩ .equal (.uint customer) = .yes ↔
            subscription.customer = customer := by
        rw [Row.compare_equal_datum (subscription.row_customer apart)]
        simp [Sql.Value.same]
      rw [accepts_iff_restricted, ← branches_truth distinct, ← and_assoc, ← hcustomerTruth,
        ← Sql.Truth.and_eq_yes]
      exact restricted_truth distinct predicate whole (.both _ _)

def expiringWeek : Predicate :=
  ⟨[⟨42, none⟩, ⟨7, some 3⟩], [.expired], some ⟨⟨0, 0⟩, ⟨604799, 0⟩⟩⟩

theorem render_selects_expiringWeek :
    (∃ formula, (expiringWeek.render "sub" .standard).formula? = some formula ∧
      ∀ subscription : Subscription, formula.truth (subscription.row "sub" .standard) = .yes ↔
        expiringWeek.accepts subscription = true) ∧
    ∃ text formula,
      (CustomerSubscriptionQuery.new Settings.standard.schema 5 expiringWeek).fragment.sql =
        "SELECT sub.id FROM wp_edd_subscriptions AS sub WHERE " ++ text ++ " LIMIT 1" ∧
      Sql.Fragment.formula? ⟨text, (CustomerSubscriptionQuery.new Settings.standard.schema 5
        expiringWeek).fragment.params⟩ = some formula ∧
      ∀ subscription : Subscription, formula.truth (subscription.row "sub" .standard) = .yes ↔
        subscription.customer = 5 ∧ expiringWeek.accepts subscription = true := by
  have hwhole : ∀ window, expiringWeek.window = some window →
      window.start.nanos = 0 ∧ window.finish.nanos = 0 := by
    intro window h
    obtain rfl := Option.some.inj h
    exact ⟨rfl, rfl⟩
  have hselects := render_selects_accepted expiringWeek Settings.standard.schema "sub" (by decide)
    hwhole (by decide) (by decide) (by decide)
  exact ⟨hselects.1, hselects.2 (by decide) 5⟩

end Commerce.Predicate
end SegmentRules
