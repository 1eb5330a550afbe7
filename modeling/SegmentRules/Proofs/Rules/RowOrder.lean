import SegmentRules.Proofs.Commerce.RowOrder
import SegmentRules.Proofs.Rules.Selection

/-! # Runs over stores that answer alike

A run sees of a store in memory its answers and nothing else. So two stores that answer alike take
it through the same steps, to the same query or verdict and behind the same number of questions. -/
namespace SegmentRules

open Commerce (CustomerLookup MemoryStore Predicate Store)
open Commerce.MemoryStore (Alike SameRows sharedKeys)

namespace Commerce.MemoryStore

variable {a b store : MemoryStore}

theorem Alike.membership (alike : Alike a b) (schema : Schema) (contact : Contact)
    (predicate : Predicate) :
    a.membership schema contact predicate = b.membership schema contact predicate := by
  simp only [MemoryStore.membership, alike.lookUp, alike.owns]

theorem Alike.asked (alike : Alike a b) (count : Nat) : Alike (a.asked count) b :=
  ⟨alike.owners, alike.lookUp, alike.owns⟩

end Commerce.MemoryStore

namespace Rules

variable {a b : MemoryStore}

/-- One run stands for the runs over all stores that answer like a given one. -/
theorem apply_alike (rules : Rules) (filters : List Filter) (query : ContactQuery)
    (b : MemoryStore) :
    ∃ result final count, ∀ store : MemoryStore, Alike store b → store.failure = none →
      rules.apply filters query store = (result, final, store.asked count) := by
  induction filters generalizing query with
  | nil => exact ⟨.ok (), query, 0, fun store _ _ => rfl⟩
  | cons filter rest ih =>
    cases hcompile : rules.compiler.compile filter with
    | error error =>
      by_cases hskip : error.isSkippable = true
      · obtain ⟨result, final, count, hrest⟩ := ih query
        refine ⟨result, final, count, ?_⟩
        intro store alike sound
        simp [apply, hcompile, hskip, hrest store alike sound]
      · refine ⟨.error error, query, 0, ?_⟩
        intro store _ _
        simp [apply, hcompile, hskip]
    | ok compiled =>
      obtain ⟨result, final, count, hrest⟩ :=
        ih (query.restrict rules.schema.contact compiled.condition.operator
          (.ofRows (b.owners compiled.predicate)))
      refine ⟨result, final, 1 + count, ?_⟩
      intro store alike sound
      have hresolve := MemoryStore.resolve_eq sound rules.schema compiled.predicate
      rw [alike.owners] at hresolve
      have hnext := hrest (store.asked 1) (alike.asked 1) sound
      simp [apply, hcompile, hresolve, hnext]

theorem assess_alike (rules : Rules) (contact : Contact) (previous : Bool) (filters : List Filter)
    (b : MemoryStore) :
    ∃ result count, ∀ store : MemoryStore, Alike store b → store.failure = none →
      rules.assess contact previous filters store = (result, store.asked count) := by
  induction filters with
  | nil => exact ⟨.ok ⟨previous, [], []⟩, 0, fun store _ _ => rfl⟩
  | cons filter rest ih =>
    obtain ⟨result, count, hrest⟩ := ih
    cases hcompile : rules.compiler.compile filter with
    | error error =>
      by_cases hskip : error.isSkippable = true
      · refine ⟨result.map (withFindings [] [⟨filter.property, error⟩]), count, ?_⟩
        intro store alike sound
        simp [assess, hcompile, hskip, hrest store alike sound]
      · refine ⟨.error error, 0, ?_⟩
        intro store _ _
        simp [assess, hcompile, hskip]
    | ok compiled =>
      rcases hanswer : b.membership rules.schema contact compiled.predicate with
        ⟨membership, first⟩
      have hcheck : ∀ store : MemoryStore, Alike store b → store.failure = none →
          Membership.check rules.schema contact compiled.predicate store =
            (.ok membership, store.asked first) := by
        intro store alike sound
        rw [MemoryStore.check_eq sound, alike.membership, hanswer]
      by_cases hpasses : compiled.condition.operator.passes membership.isMember = true
      · refine ⟨result.map (withFindings membership.ambiguity.toList []), first + count, ?_⟩
        intro store alike sound
        have hnext := hrest (store.asked first) (alike.asked first) sound
        simp [assess, hcompile, hcheck store alike sound, hpasses, hnext]
      · refine ⟨.ok ⟨false, membership.ambiguity.toList, []⟩, first, ?_⟩
        intro store alike sound
        simp [assess, hcompile, hcheck store alike sound, hpasses]

/-- The order in which rows are stored shows nowhere: not in the clauses of a query or the values in
them, not in a verdict and its findings, and not in the number of questions asked. -/
theorem row_order_irrelevant (rules : Rules) (filters : List Filter) (query : ContactQuery)
    (contact : Contact) (previous : Bool) (same : SameRows a b) (keyed : a.KeyedById)
    (sound : a.failure = none) (sound' : b.failure = none) :
    (∃ result final count, rules.apply filters query a = (result, final, a.asked count) ∧
      rules.apply filters query b = (result, final, b.asked count)) ∧
    ∃ result count, rules.assess contact previous filters a = (result, a.asked count) ∧
      rules.assess contact previous filters b = (result, b.asked count) := by
  have alike : Alike a b := same.alike keyed
  have itself : Alike b b := ⟨fun _ => rfl, fun _ => rfl, fun _ _ => rfl⟩
  constructor
  · obtain ⟨result, final, count, hrun⟩ := rules.apply_alike filters query b
    exact ⟨result, final, count, hrun a alike sound, hrun b itself sound'⟩
  · obtain ⟨result, count, hrun⟩ := rules.assess_alike contact previous filters b
    exact ⟨result, count, hrun a alike sound, hrun b itself sound'⟩

theorem row_order_irrelevant_of_reversed :
    (∃ result final count,
      standard.apply Filter.activeNotExpiring (.new .standard) sharedKeys =
        (result, final, sharedKeys.asked count) ∧
      standard.apply Filter.activeNotExpiring (.new .standard) sharedKeys.reversed =
        (result, final, sharedKeys.reversed.asked count)) ∧
    ∃ result count,
      standard.assess ⟨3, some 5, some "a@example.com"⟩ true Filter.activeNotExpiring
        sharedKeys = (result, sharedKeys.asked count) ∧
      standard.assess ⟨3, some 5, some "a@example.com"⟩ true Filter.activeNotExpiring
        sharedKeys.reversed = (result, sharedKeys.reversed.asked count) := by
  have same : SameRows sharedKeys sharedKeys.reversed :=
    ⟨(List.reverse_perm _).symm, (List.reverse_perm _).symm⟩
  exact row_order_irrelevant standard Filter.activeNotExpiring (.new .standard)
    ⟨3, some 5, some "a@example.com"⟩ true same (by decide) rfl rfl

end Rules
end SegmentRules
