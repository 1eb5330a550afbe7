import SegmentRules.Proofs.Commerce.Recorder
import SegmentRules.Rules.Basic

/-! # Runs over views of stores

A run knows of its store the answers it gets. So it does the same over a store and over a view of
it. -/
namespace SegmentRules

open Commerce (CustomerLookup Predicate Store)

variable {τ σ : Type} [Store τ] [Store σ] {view : τ → σ}

theorem Membership.check_view (h : Store.IsView view) (schema : Schema) (contact : Contact)
    (predicate : Predicate) (store : τ) :
    check schema contact predicate (view store) =
      Prod.map id view (check schema contact predicate store) := by
  cases hlookup : CustomerLookup.new? schema contact.linkedAccount contact.linkedEmail with
  | none => simp [check, hlookup]
  | some lookup =>
    rcases hcustomers : Store.customers lookup store with ⟨_ | customers, found⟩
    · simp [check, hlookup, h.customers, hcustomers]
    · cases hpick : pick? contact customers with
      | none => simp [check, hlookup, h.customers, hcustomers, hpick]
      | some picked =>
        rcases hmember : Store.hasSubscription (.new schema picked.1 predicate) found with
          ⟨_ | isMember, checked⟩ <;>
        simp [check, hlookup, h.customers, hcustomers, hpick, h.hasSubscription, hmember]

namespace Rules

variable (rules : Rules)

theorem resolve_view (h : Store.IsView view) (schema : Schema) (predicate : Predicate) (store : τ) :
    resolve schema predicate (view store) = Prod.map id view (resolve schema predicate store) := by
  rcases hanswer : Store.identities (.new schema predicate) store with ⟨_ | rows, after⟩ <;>
    simp [resolve, h.identities, hanswer]

theorem apply_view (h : Store.IsView view) (filters : List Filter) (query : ContactQuery)
    (store : τ) :
    rules.apply filters query (view store) =
      Prod.map id (Prod.map id view) (rules.apply filters query store) := by
  induction filters generalizing query store with
  | nil => rfl
  | cons filter rest ih =>
    cases hcompile : rules.compiler.compile filter with
    | error error =>
      by_cases hskip : error.isSkippable = true <;> simp [apply, hcompile, hskip, ih]
    | ok compiled =>
      rcases hresolve : resolve rules.schema compiled.predicate store with ⟨_ | identities, after⟩
      · simp [apply, hcompile, resolve_view h, hresolve]
      · simp [apply, hcompile, resolve_view h, hresolve, ih]

theorem assess_view (h : Store.IsView view) (contact : Contact) (previous : Bool)
    (filters : List Filter) (store : τ) :
    rules.assess contact previous filters (view store) =
      Prod.map id view (rules.assess contact previous filters store) := by
  induction filters generalizing store with
  | nil => rfl
  | cons filter rest ih =>
    cases hcompile : rules.compiler.compile filter with
    | error error =>
      by_cases hskip : error.isSkippable = true <;> simp [assess, hcompile, hskip, ih]
    | ok compiled =>
      rcases hcheck : Membership.check rules.schema contact compiled.predicate store with
        ⟨_ | membership, after⟩
      · simp [assess, hcompile, Membership.check_view h, hcheck]
      · by_cases hpasses : compiled.condition.operator.passes membership.isMember = true <;>
          simp [assess, hcompile, Membership.check_view h, hcheck, hpasses, ih]

end Rules
end SegmentRules
