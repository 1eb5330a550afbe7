import SegmentRules.Commerce.Query
import SegmentRules.Proofs.Sql.Plain

/-! # The text of questions

A question is written in plain text, and questions of one shape are written alike, whatever they ask
about. -/
namespace SegmentRules

open Sql (Fragment isName isPlain marks)

def Schema.commerceNames (schema : Schema) : List String :=
  schema.subscriptionsTable :: schema.customersTable ::
    (schema.subscription.entries ++ schema.customer.entries).map Prod.snd

namespace Commerce

namespace Predicate

/-! ## Plain text -/

section Plain

variable {product price status expiration : String}

theorem selector_isPlain (hproduct : Fragment.IsPlain ⟨product, []⟩)
    (hprice : Fragment.IsPlain ⟨price, []⟩) (selector : Selector) :
    Fragment.IsPlain ⟨selectorSql product price selector, selectorParams selector⟩ := by
  obtain ⟨hp, hp'⟩ := Fragment.isPlain_iff.mp hproduct
  obtain ⟨hq, hq'⟩ := Fragment.isPlain_iff.mp hprice
  obtain ⟨id, variant⟩ := selector
  cases variant with
  | none => simp +decide [Fragment.isPlain_iff, selectorSql, selectorParams, hp, hp']
  | some variant =>
    simp +decide [Fragment.isPlain_iff, selectorSql, selectorParams, hp, hp', hq, hq']

theorem restriction_isPlain (hstatus : Fragment.IsPlain ⟨status, []⟩)
    (hexpiration : Fragment.IsPlain ⟨expiration, []⟩) (predicate : Predicate) :
    Fragment.IsPlain ⟨predicate.restrictionSql status expiration, predicate.restrictionParams⟩ := by
  obtain ⟨hs, hs'⟩ := Fragment.isPlain_iff.mp hstatus
  obtain ⟨he, he'⟩ := Fragment.isPlain_iff.mp hexpiration
  obtain ⟨selectors, statuses, window⟩ := predicate
  cases window with
  | some window =>
    simp +decide [Fragment.isPlain_iff, restrictionSql, restrictionParams, hs, hs', he, he']
  | none =>
    by_cases hempty : statuses = []
    · simp +decide [Fragment.isPlain_iff, restrictionSql, restrictionParams, hempty]
    · have hopening : Fragment.IsPlain ⟨" AND " ++ status ++ " IN (", []⟩ := by
        simp +decide [Fragment.isPlain_iff, hs, hs']
      have hlist := Fragment.isPlain_placeholders
        (statuses.map fun status => Sql.Value.text status.name)
      have hclosing : Fragment.IsPlain ⟨")", []⟩ := by decide
      simpa [restrictionSql, restrictionParams, hempty] using
        (hopening.append hlist).append hclosing

end Plain

theorem render_isPlain {tableAlias : String} {columns : SubscriptionColumns}
    (aliased : isName tableAlias = true)
    (named : ∀ entry ∈ columns.entries, isName entry.2 = true) (predicate : Predicate) :
    (predicate.render tableAlias columns).IsPlain := by
  have hcolumn : ∀ entry ∈ columns.entries,
      Fragment.IsPlain ⟨tableAlias ++ "." ++ entry.2, []⟩ := by
    intro entry hentry
    have hdot : Fragment.IsPlain ⟨".", []⟩ := by decide
    exact ((Fragment.isPlain_name aliased).append hdot).append
      (Fragment.isPlain_name (named entry hentry))
  simp only [SubscriptionColumns.entries, List.forall_mem_cons] at hcolumn
  obtain ⟨-, -, hproduct, hprice, hstatus, hexpiration, -⟩ := hcolumn
  have hopening : Fragment.IsPlain ⟨"(", []⟩ := by decide
  have hclosing : Fragment.IsPlain ⟨")", []⟩ := by decide
  have hor : isPlain " OR " = true ∧ marks " OR " = 0 := by decide
  have hbranches := Fragment.isPlain_intercalate hor.1 hor.2
    fun selector (_ : selector ∈ predicate.selectors) => selector_isPlain hproduct hprice selector
  have hproducts := (hopening.append hbranches).append hclosing
  simpa [render] using hproducts.append (restriction_isPlain hstatus hexpiration predicate)

end Predicate

section Questions

variable {schema : Schema} (named : ∀ name ∈ schema.commerceNames, isName name = true)
include named

theorem names_isPlain : ∀ name ∈ schema.commerceNames, isPlain name = true ∧ marks name = 0 :=
  fun name hname => Fragment.isPlain_name (named name hname)

theorem condition_isPlain (predicate : Predicate) :
    (predicate.render subscriptionAlias schema.subscription).IsPlain := by
  refine predicate.render_isPlain (by decide) fun entry hentry => named entry.2 ?_
  simp only [Schema.commerceNames, List.mem_cons, List.map_append, List.mem_append]
  exact .inr (.inr (.inl (List.mem_map_of_mem hentry)))

theorem membershipQuery_isPlain (predicate : Predicate) :
    (MembershipQuery.new schema predicate).fragment.IsPlain := by
  have hnames := names_isPlain named
  simp only [Schema.commerceNames, SubscriptionColumns.entries, IdentityColumns.entries,
    List.cons_append, List.nil_append, List.map_cons, List.forall_mem_cons] at hnames
  obtain ⟨hplain, hmarks⟩ := Fragment.isPlain_iff.mp (condition_isPlain named predicate)
  simp +decide [Fragment.isPlain_iff, MembershipQuery.new, hnames, hplain, hmarks]

theorem customerSubscriptionQuery_isPlain (customer : UInt64) (predicate : Predicate) :
    (CustomerSubscriptionQuery.new schema customer predicate).fragment.IsPlain := by
  have hnames := names_isPlain named
  simp only [Schema.commerceNames, SubscriptionColumns.entries, List.cons_append, List.map_cons,
    List.forall_mem_cons] at hnames
  have hhead : Fragment.IsPlain ⟨"SELECT " ++
      (subscriptionAlias ++ "." ++ schema.subscription.id) ++ " FROM " ++
      schema.subscriptionsTable ++ " AS " ++ subscriptionAlias ++ " WHERE " ++
      (subscriptionAlias ++ "." ++ schema.subscription.customerId) ++ " = ? AND ",
      [.uint customer]⟩ := by
    simp +decide [Fragment.isPlain_iff, hnames]
  have hlimit : Fragment.IsPlain ⟨" LIMIT 1", []⟩ := by decide
  have hquery := (hhead.append (condition_isPlain named predicate)).append hlimit
  rw [List.append_nil] at hquery
  exact hquery

theorem customerLookup_isPlain {account : Option UInt64} {email : Option String}
    {lookup : CustomerLookup} (h : CustomerLookup.new? schema account email = some lookup) :
    lookup.fragment.IsPlain := by
  have hnames := names_isPlain named
  simp only [Schema.commerceNames, SubscriptionColumns.entries, IdentityColumns.entries,
    List.cons_append, List.nil_append, List.map_cons, List.forall_mem_cons] at hnames
  cases account <;> cases email <;> simp only [CustomerLookup.new?] at h
  · cases h
  all_goals
    obtain rfl := Option.some.inj h
    simp +decide [Fragment.isPlain_iff, hnames]

end Questions

/-! ## Texts of one shape -/

namespace Predicate

/-- Prices at the same places, and windows or as many statuses. -/
structure SameShape (p q : Predicate) : Prop where
  variants : p.selectors.map (·.variant.isSome) = q.selectors.map (·.variant.isSome)
  windows : p.window.isSome = q.window.isSome
  statuses : p.window = none → p.statuses.length = q.statuses.length

variable {p q : Predicate}

theorem SameShape.selectors_sql (h : p.SameShape q) (product price : String) :
    p.selectors.map (selectorSql product price) = q.selectors.map (selectorSql product price) := by
  have hsql : selectorSql product price = (fun priced : Bool =>
      if priced then "(" ++ product ++ " = ? AND " ++ price ++ " = ?)"
      else "(" ++ product ++ " = ?)") ∘ (·.variant.isSome) := by
    funext selector
    rw [selectorSql]
    cases hvariant : selector.variant <;> simp [hvariant]
  rw [hsql, ← List.map_map, h.variants, List.map_map]

theorem SameShape.restriction_sql (h : p.SameShape q) (status expiration : String) :
    p.restrictionSql status expiration = q.restrictionSql status expiration := by
  cases hp : p.window with
  | some window =>
    obtain ⟨other, hq⟩ := Option.isSome_iff_exists.mp (h.windows.symm.trans (by rw [hp]; rfl))
    simp [restrictionSql, hp, hq]
  | none =>
    have hq : q.window = none := by simpa [hp] using h.windows.symm
    have hlength := h.statuses hp
    have hempty : p.statuses = [] ↔ q.statuses = [] := by
      rw [← List.length_eq_zero_iff, hlength, List.length_eq_zero_iff]
    simp [restrictionSql, hp, hq, hlength, hempty]

theorem SameShape.render_sql (h : p.SameShape q) (tableAlias : String)
    (columns : SubscriptionColumns) :
    (p.render tableAlias columns).sql = (q.render tableAlias columns).sql := by
  simp only [render, h.selectors_sql, h.restriction_sql]

theorem SameShape.membership_sql (h : p.SameShape q) (schema : Schema) :
    (MembershipQuery.new schema p).fragment.sql = (MembershipQuery.new schema q).fragment.sql := by
  simp only [MembershipQuery.new, h.render_sql]

theorem SameShape.customerSubscription_sql (h : p.SameShape q) (schema : Schema)
    (customer other : UInt64) :
    (CustomerSubscriptionQuery.new schema customer p).fragment.sql =
      (CustomerSubscriptionQuery.new schema other q).fragment.sql := by
  simp only [CustomerSubscriptionQuery.new, h.render_sql]

end Predicate

theorem lookup_sql_congr (schema : Schema) {account account' : Option UInt64}
    {email email' : Option String} (haccount : account.isSome = account'.isSome)
    (hemail : email.isSome = email'.isSome) :
    (CustomerLookup.new? schema account email).map (·.fragment.sql) =
      (CustomerLookup.new? schema account' email').map (·.fragment.sql) := by
  cases account <;> cases account' <;> cases haccount <;>
    cases email <;> cases email' <;> cases hemail <;> rfl

end Commerce
end SegmentRules
