import Mathlib.Logic.Basic
import SegmentRules.Proofs.Commerce.MemoryStore
import SegmentRules.Proofs.Contact.Restriction
import SegmentRules.Proofs.Rules.Meaning

/-! # Runs over a store in memory

Asking a store in memory only counts the questions. So the filters of a run all see the same rows,
and a run says what each of its filters says. -/
namespace SegmentRules

open Commerce (Customer CustomerLookup MemoryStore Predicate Store)

theorem ContactQuery.restrict_accepts {columns : IdentityColumns} {query : ContactQuery}
    {contact : Contact} (h : columns.Distinct) (known : contact.id ≠ impossibleId)
    (same : query.columns = columns)
    (conjoined : ∀ clause ∈ query.clauses, clause.connector = .conj) (operator : Operator)
    (rows : List IdentityRow) :
    (∀ clause ∈ (query.restrict columns operator (.ofRows rows)).clauses,
        clause.connector = .conj) ∧
      ((query.restrict columns operator (.ofRows rows)).accepts contact = true ↔
        query.accepts contact = true ∧ operator.Admits contact rows) := by
  have hall : ∀ clause ∈ (query.restrict columns operator (.ofRows rows)).clauses,
      clause.connector = .conj := by
    intro clause hc
    rcases List.mem_append.mp hc with hc | hc
    · exact conjoined clause hc
    · exact IdentitySet.restriction_conjoined operator _ clause hc
  refine ⟨hall, ?_⟩
  rw [accepts, Clause.all_hold_of_conjoined hall, accepts, Clause.all_hold_of_conjoined conjoined,
    ← IdentitySet.restriction_admits h known operator, ← Bool.and_eq_true, ← same]
  simp only [restrict, extend, List.all_append]

namespace Membership

theorem lookup_cases (schema : Schema) (account : Option UInt64) (email : Option String) :
    (account = .none ∧ email = .none ∧ CustomerLookup.new? schema account email = .none) ∨
      ∃ lookup, CustomerLookup.new? schema account email = some lookup ∧
        lookup.account = account ∧ lookup.email = email := by
  cases account with
  | none =>
    cases email with
    | none => exact .inl ⟨rfl, rfl, rfl⟩
    | some email => exact .inr ⟨_, rfl, rfl, rfl⟩
  | some account =>
    cases email with
    | none => exact .inr ⟨_, rfl, rfl, rfl⟩
    | some email => exact .inr ⟨_, rfl, rfl, rfl⟩

theorem lookup_of_unidentified (schema : Schema) {contact : Contact}
    (account : ¬ IsAccount contact.account) (email : ¬ IsEmail contact.email) :
    CustomerLookup.new? schema contact.linkedAccount contact.linkedEmail = .none := by
  rw [← linkedAccount?_isSome, Option.not_isSome_iff_eq_none] at account
  rw [← linkedEmail?_isSome, Option.not_isSome_iff_eq_none] at email
  rw [Contact.linkedAccount, Contact.linkedEmail, account, email]
  rfl

theorem pick_cases (contact : Contact) (customers : List Customer) :
    (pick? contact customers = .none ∧ customers = []) ∨
      ∃ picked ∈ customers, ∃ ambiguity, pick? contact customers = some (picked.id, ambiguity) := by
  cases h : contact.linkedAccount.bind fun account => customers.find? (hasAccount account) with
  | some picked =>
    obtain ⟨account, -, hfind⟩ := Option.bind_eq_some_iff.mp h
    exact .inr ⟨picked, List.mem_of_find?_eq_some hfind, _, by rw [pick?, h]⟩
  | none =>
    cases customers with
    | nil => exact .inl ⟨by rw [pick?, h]; rfl, rfl⟩
    | cons first rest => exact .inr ⟨first, by simp, _, by rw [pick?, h]; rfl⟩

theorem pick?_nil (contact : Contact) : pick? contact [] = .none := by
  rcases pick_cases contact [] with ⟨hnone, -⟩ | ⟨picked, hmem, -⟩
  · exact hnone
  · cases hmem

end Membership

namespace Commerce.MemoryStore

variable {store : MemoryStore}

def customerOf? (store : MemoryStore) (schema : Schema) (contact : Contact) : Option UInt64 :=
  (CustomerLookup.new? schema contact.linkedAccount contact.linkedEmail).bind fun lookup =>
    (Membership.pick? contact (store.lookUp lookup)).map (·.1)

/-- A contact stands for a customer who shares a key with it, and for nobody only if nobody does. -/
theorem customerOf?_cases (store : MemoryStore) (schema : Schema) (contact : Contact) :
    (store.customerOf? schema contact = none ∧
        ∀ customer ∈ store.customers, ¬ contact.Shares customer.account customer.email) ∨
      ∃ picked ∈ store.customers, contact.Shares picked.account picked.email ∧
        store.customerOf? schema contact = some picked.id := by
  rcases Membership.lookup_cases schema contact.linkedAccount contact.linkedEmail with
    ⟨haccount, hemail, hlookup⟩ | ⟨lookup, hlookup, haccount, hemail⟩
  · refine .inl ⟨by simp [customerOf?, hlookup], ?_⟩
    rintro customer - (⟨hi, hsame⟩ | ⟨hi, hsame⟩)
    · have hsome := linkedAccount?_isSome.mpr (hsame ▸ hi)
      rw [← Contact.linkedAccount, haccount] at hsome
      cases hsome
    · have hsome := linkedEmail?_isSome.mpr (hsame ▸ hi)
      rw [← Contact.linkedEmail, hemail] at hsome
      cases hsome
  · rcases Membership.pick_cases contact (store.lookUp lookup) with
      ⟨hpick, hnobody⟩ | ⟨picked, hfound, ambiguity, hpick⟩
    · refine .inl ⟨by simp [customerOf?, hlookup, hpick], fun customer hmem hshares => ?_⟩
      have hfound := (mem_lookUp haccount hemail).mpr ⟨hmem, hshares⟩
      simp [hnobody] at hfound
    · obtain ⟨hmem, hshares⟩ := (mem_lookUp haccount hemail).mp hfound
      exact .inr ⟨picked, hmem, hshares, by simp [customerOf?, hlookup, hpick]⟩

def isMember (store : MemoryStore) (schema : Schema) (contact : Contact) (predicate : Predicate) :
    Bool :=
  (store.customerOf? schema contact).any (store.owns · predicate)

/-- The membership of a contact, and how many questions it takes to find it out. -/
def membership (store : MemoryStore) (schema : Schema) (contact : Contact) (predicate : Predicate) :
    Membership × Nat :=
  match CustomerLookup.new? schema contact.linkedAccount contact.linkedEmail with
  | none => (.none, 0)
  | some lookup =>
    match Membership.pick? contact (store.lookUp lookup) with
    | none => (.none, 1)
    | some (id, ambiguity) => (⟨store.owns id predicate, ambiguity⟩, 2)

theorem membership_isMember (store : MemoryStore) (schema : Schema) (contact : Contact)
    (predicate : Predicate) :
    (store.membership schema contact predicate).1.isMember =
      store.isMember schema contact predicate := by
  cases hlookup : CustomerLookup.new? schema contact.linkedAccount contact.linkedEmail with
  | none => simp [membership, isMember, customerOf?, hlookup, Membership.none]
  | some lookup =>
    cases hpick : Membership.pick? contact (store.lookUp lookup) with
    | none => simp [membership, isMember, customerOf?, hlookup, hpick, Membership.none]
    | some picked => simp [membership, isMember, customerOf?, hlookup, hpick]

theorem check_eq (sound : store.failure = none) (schema : Schema) (contact : Contact)
    (predicate : Predicate) :
    Membership.check schema contact predicate store =
      (.ok (store.membership schema contact predicate).1,
        store.asked (store.membership schema contact predicate).2) := by
  cases hlookup : CustomerLookup.new? schema contact.linkedAccount contact.linkedEmail with
  | none => simp [Membership.check, membership, hlookup]
  | some lookup =>
    cases hpick : Membership.pick? contact (store.lookUp lookup) with
    | none =>
      simp [Membership.check, membership, hlookup, Store.customers, answer_of_sound sound, hpick]
    | some picked =>
      have hagain : (store.asked 1).failure = none := sound
      simp only [Membership.check, membership, hlookup, Store.customers, answer_of_sound sound,
        hpick, Store.hasSubscription, answer_of_sound hagain]
      rfl

theorem resolve_eq (sound : store.failure = none) (schema : Schema) (predicate : Predicate) :
    Rules.resolve schema predicate store =
      (.ok (.ofRows (store.owners predicate)), store.asked 1) := by
  simp only [Rules.resolve, Store.identities, answer_of_sound sound]
  rfl

end Commerce.MemoryStore

theorem Membership.check_of_sound {store : MemoryStore} (sound : store.failure = .none)
    (schema : Schema) (contact : Contact) (predicate : Predicate) :
    ∃ membership calls, check schema contact predicate store =
        (.ok membership, store.asked calls) ∧
      membership.isMember = store.isMember schema contact predicate :=
  ⟨_, _, MemoryStore.check_eq sound schema contact predicate,
    store.membership_isMember schema contact predicate⟩

namespace Rules

variable {rules : Rules} {store : MemoryStore}

def Skips (rules : Rules) (filter : Filter) : Prop :=
  ∃ error, rules.compiler.compile filter = .error error ∧ error.isSkippable = true

/-- A filter is left out or has a condition; it does not stop a run. -/
def Evaluates (rules : Rules) (filter : Filter) : Prop :=
  rules.Skips filter ∨ ∃ compiled, rules.compiler.compile filter = .ok compiled

/-- The condition of every filter that has one is satisfied. -/
def Requires (rules : Rules) (filters : List Filter) (Satisfied : Compiled → Prop) : Prop :=
  ∀ filter ∈ filters, ∀ compiled, rules.compiler.compile filter = .ok compiled → Satisfied compiled

theorem requires_skipped {filter : Filter} {rest : List Filter} {Satisfied : Compiled → Prop}
    (h : rules.Skips filter) :
    rules.Requires (filter :: rest) Satisfied ↔ rules.Requires rest Satisfied := by
  obtain ⟨error, herror, -⟩ := h
  simp [Requires, herror]

theorem requires_compiled {filter : Filter} {rest : List Filter} {Satisfied : Compiled → Prop}
    {compiled : Compiled} (h : rules.compiler.compile filter = .ok compiled) :
    rules.Requires (filter :: rest) Satisfied ↔
      Satisfied compiled ∧ rules.Requires rest Satisfied := by
  simp [Requires, h]

/-- What one filter does to a successful run: nothing, or it restricts the query to those its
operator admits. -/
theorem apply_step {filter : Filter} {rest : List Filter} {query final : ContactQuery}
    {after : MemoryStore} (sound : store.failure = none)
    (run : rules.apply (filter :: rest) query store = (.ok (), final, after)) :
    (rules.Skips filter ∧ rules.apply rest query store = (.ok (), final, after)) ∨
      ∃ compiled, rules.compiler.compile filter = .ok compiled ∧
        rules.apply rest
          (query.restrict rules.schema.contact compiled.condition.operator
            (.ofRows (store.owners compiled.predicate)))
          (store.asked 1) = (.ok (), final, after) := by
  rw [apply] at run
  cases hcompile : rules.compiler.compile filter with
  | error error =>
    simp only [hcompile] at run
    split at run
    · rename_i hskip
      exact .inl ⟨⟨error, hcompile, hskip⟩, run⟩
    · cases run
  | ok compiled =>
    simp only [hcompile, MemoryStore.resolve_eq sound] at run
    exact .inr ⟨compiled, rfl, run⟩

/-- A successful run adds what its filters require, whoever the contact is. -/
theorem apply_run {filters : List Filter} {query final : ContactQuery} {after : MemoryStore}
    {contact : Contact} (h : rules.schema.contact.Distinct) (known : contact.id ≠ impossibleId)
    (sound : store.failure = none)
    (conjoined : ∀ clause ∈ query.clauses, clause.connector = .conj)
    (same : query.columns = rules.schema.contact)
    (run : rules.apply filters query store = (.ok (), final, after)) :
    (∀ filter ∈ filters, rules.Evaluates filter) ∧
      (final.accepts contact = true ↔ query.accepts contact = true ∧
        rules.Requires filters fun compiled =>
          compiled.condition.operator.Admits contact (store.owners compiled.predicate)) := by
  -- That the query stays a conjunction carries the induction: behind an OR the filters that
  -- follow would not constrain the alternatives before them.
  induction filters generalizing query store with
  | nil =>
    obtain ⟨rfl, -⟩ : query = final ∧ store = after := by simpa [apply] using run
    simp [Requires]
  | cons filter rest ih =>
    rcases apply_step sound run with ⟨hskip, hrest⟩ | ⟨compiled, hcompile, hrest⟩
    · obtain ⟨hall, haccepts⟩ := ih sound conjoined same hrest
      exact ⟨List.forall_mem_cons.mpr ⟨.inl hskip, hall⟩,
        haccepts.trans (and_congr_right fun _ => (requires_skipped hskip).symm)⟩
    · obtain ⟨hconjoined, hadmits⟩ := ContactQuery.restrict_accepts h known same conjoined
        compiled.condition.operator (store.owners compiled.predicate)
      have hcounted : (store.asked 1).failure = none := sound
      obtain ⟨hall, haccepts⟩ := ih hcounted hconjoined same hrest
      refine ⟨List.forall_mem_cons.mpr ⟨.inr ⟨compiled, hcompile⟩, hall⟩, ?_⟩
      rw [haccepts, hadmits, requires_compiled hcompile, and_assoc]
      rfl

/-- An assessment by filters that do not stop it is answered. The contact passes if it passes all of
them and did so before. -/
theorem assess_run {filters : List Filter} (sound : store.failure = none)
    (h : ∀ filter ∈ filters, rules.Evaluates filter) (contact : Contact) (previous : Bool) :
    ∃ assessment after, rules.assess contact previous filters store = (.ok assessment, after) ∧
      (assessment.passed = true ↔ previous = true ∧ rules.Requires filters fun compiled =>
        compiled.condition.operator.passes
          (store.isMember rules.schema contact compiled.predicate) = true) := by
  induction filters generalizing store with
  | nil => exact ⟨⟨previous, [], []⟩, store, rfl, by simp [Requires]⟩
  | cons filter rest ih =>
    obtain ⟨hfilter, hrest⟩ := List.forall_mem_cons.mp h
    rcases hfilter with hskip | ⟨compiled, hcompile⟩
    · obtain ⟨assessment, after, hrun, hpassed⟩ := ih sound hrest
      obtain ⟨error, herror, hskippable⟩ := id hskip
      refine ⟨withFindings [] [⟨filter.property, error⟩] assessment, after, ?_, ?_⟩
      · simp [assess, herror, hskippable, hrun, Except.map]
      · rw [requires_skipped hskip]
        exact hpassed
    · obtain ⟨membership, calls, hcheck, hmember⟩ :=
        Membership.check_of_sound sound rules.schema contact compiled.predicate
      rw [assess, hcompile, requires_compiled hcompile, ← hmember]
      simp only [hcheck]
      by_cases hpasses : compiled.condition.operator.passes membership.isMember = true
      · have hcounted : (store.asked calls).failure = none := sound
        obtain ⟨assessment, after, hrun, hpassed⟩ := ih hcounted hrest
        refine ⟨withFindings membership.ambiguity.toList [] assessment, after, ?_, ?_⟩
        · simp [hpasses, hrun, Except.map]
        · simp only [hpasses, true_and]
          exact hpassed
      · exact ⟨⟨false, membership.ambiguity.toList, []⟩, store.asked calls,
          by simp [hpasses], by simp [hpasses]⟩

end Rules
end SegmentRules
