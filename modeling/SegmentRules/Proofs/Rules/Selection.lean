import SegmentRules.Proofs.Rules.Run

/-! # What a restricted query selects

The selected contacts in terms of filters, subscriptions and customers, without compiler, identity
sets and clauses. -/
namespace SegmentRules

open Commerce (Customer MemoryStore Predicate)

/-- Two customers, each with an active subscription to one product; the second one's runs out. -/
def Commerce.MemoryStore.twoCustomers : MemoryStore where
  customers := [⟨1, some 5, none⟩, ⟨2, none, some "b@example.com"⟩]
  subscriptions :=
    [⟨1, 1, 7, none, "active", none⟩, ⟨2, 2, 7, some 1, "active", some ⟨259200, 0⟩⟩]
  calls := 0
  failure := none

def Gates.billing : Gates := ⟨[Settings.standard.commerceProvider], true⟩

/-- What the standard settings give at a time whose site clock shows the same. -/
def Rules.standard : Rules := ⟨⟨.withGate true, ⟨⟨0, 0⟩⟩, 0⟩, Settings.standard.schema⟩

namespace Filter

/-- A filter of each operator around one that is skipped. -/
def activeNotExpiring : List Filter :=
  [.new "has_subscription_active" .member ["7"], .new "has_cancelled" .member ["7"],
    .new "subscription_expiring_7d" .nonMember ["7:1", "8"]]

def Finds (filter : Filter) (siteNow : Timestamp) (store : MemoryStore) (customer : Customer) :
    Prop :=
  customer ∈ store.customers ∧
    ∃ row ∈ store.subscriptions, row.customer = customer.id ∧ filter.Hits siteNow row

/-- The contact satisfies the filter with an operator. An exclusion is satisfied if no customer
found shares a key with the contact, and a key the contact lacks no customer found may have. -/
def SatisfiedBy (filter : Filter) (siteNow : Timestamp) (store : MemoryStore) (contact : Contact) :
    Operator → Prop
  | .member => ∃ customer, filter.Finds siteNow store customer ∧
      contact.Shares customer.account customer.email
  | .nonMember => ∀ customer, filter.Finds siteNow store customer →
      ¬ contact.Shares customer.account customer.email ∧
        (contact.account = none → ¬ IsAccount customer.account) ∧
        (contact.email = none → ¬ IsEmail customer.email)

theorem asks_unique {filter : Filter} {a b : Operator} (ha : filter.Asks a) (hb : filter.Asks b) :
    a = b := by
  cases a <;> cases b <;> simp_all [Asks]

end Filter

/-- With distinct customer ids, the owners of the subscriptions that count are the customers that a
filter finds. -/
theorem Commerce.MemoryStore.admits_owners {store : MemoryStore} {predicate : Predicate}
    {filter : Filter} {siteNow : Timestamp} {contact : Contact} (keyed : store.KeyedById)
    (same : ∀ row, predicate.accepts row = true ↔ filter.Hits siteNow row) (operator : Operator) :
    operator.Admits contact (store.owners predicate) ↔
      filter.SatisfiedBy siteNow store contact operator := by
  have howner : ∀ row, row ∈ store.owners predicate ↔ ∃ customer,
      filter.Finds siteNow store customer ∧ row = ⟨customer.account, customer.email⟩ := by
    intro row
    rw [mem_owners keyed]
    simp only [Filter.Finds, owns_iff, same, and_assoc]
  cases operator with
  | member =>
    constructor
    · rintro ⟨row, hrow, hshares⟩
      obtain ⟨customer, hfinds, rfl⟩ := (howner row).mp hrow
      exact ⟨customer, hfinds, hshares⟩
    · rintro ⟨customer, hfinds, hshares⟩
      exact ⟨_, (howner _).mpr ⟨customer, hfinds, rfl⟩, hshares⟩
  | nonMember =>
    constructor
    · rintro ⟨hshares, haccount, hemail⟩ customer hfinds
      have hrow := (howner _).mpr ⟨customer, hfinds, rfl⟩
      exact ⟨hshares _ hrow, fun hnull => haccount hnull _ hrow, fun hnull => hemail hnull _ hrow⟩
    · intro h
      refine ⟨fun row hrow => ?_, fun hnull row hrow => ?_, fun hnull row hrow => ?_⟩ <;>
        obtain ⟨customer, hfinds, rfl⟩ := (howner row).mp hrow
      · exact (h customer hfinds).1
      · exact (h customer hfinds).2.1 hnull
      · exact (h customer hfinds).2.2 hnull

namespace Rules

theorem new_of_valid {settings : Settings} (valid : settings.validate = .ok ()) (gates : Gates)
    (now : Instant) :
    ∃ offset, settings.utcOffset = .ok offset ∧ new settings gates now =
      .ok ⟨⟨.withGate (gates.areOpen settings.commerceProvider), now, offset⟩,
        settings.schema⟩ := by
  have hbetween : settings.utcOffsetHours.between (-14) 14 = true := by
    simp only [Settings.validate, Settings.fault?] at valid
    cases hbad : settings.badIdentifier? with
    | some bad => simp [hbad] at valid
    | none =>
      by_contra hout
      simp [hbad, Bool.eq_false_iff.mpr hout] at valid
  have hoffset : settings.utcOffset =
      .ok (settings.utcOffsetHours.mul (Double.ofNat 3600)).round := by
    simp [Settings.utcOffset, hbetween]
  refine ⟨_, hoffset, ?_⟩
  simp only [new, valid, hoffset]
  rfl

section Gate

variable {rules : Rules} {enabled : Bool} {filter : Filter}

/-- Behind an open gate just the unusable filters are skipped, behind a closed one all are. -/
theorem skips_iff (h : rules.compiler.catalog = .withGate enabled) :
    rules.Skips filter ↔ ¬ (enabled = true ∧ filter.Usable) := by
  constructor
  · rintro ⟨error, herror, hskippable⟩ husable
    rcases Compiler.compile_cases h filter with
      ⟨hunusable, -⟩ | ⟨-, ⟨stop, hstop, hstops⟩ | ⟨compiled, hcompiled, -⟩⟩
    · exact hunusable husable
    · obtain rfl : stop = error := Except.error.inj (hstop.symm.trans herror)
      cases hskippable.symm.trans hstops
    · cases hcompiled.symm.trans herror
  · intro hunusable
    rcases Compiler.compile_cases h filter with ⟨-, hskips⟩ | ⟨husable, -⟩
    · exact hskips
    · exact absurd husable hunusable

theorem compiled_of_kept (h : rules.compiler.catalog = .withGate enabled)
    (evaluates : rules.Evaluates filter) (kept : ¬ rules.Skips filter) :
    ∃ compiled, rules.compiler.compile filter = .ok compiled ∧
      filter.Asks compiled.condition.operator ∧
      ∀ row, compiled.predicate.accepts row = true ↔ filter.Hits rules.compiler.siteNow row := by
  rcases Compiler.compile_cases h filter with
    ⟨-, hskips⟩ | ⟨-, ⟨stop, hstop, -⟩ | hcompiled⟩
  · exact absurd hskips kept
  · rcases evaluates with hskips | ⟨compiled, hcompiled⟩
    · exact absurd hskips kept
    · cases hstop.symm.trans hcompiled
  · exact hcompiled

theorem kept_of_compiled {compiled : Compiled}
    (h : rules.compiler.compile filter = .ok compiled) : ¬ rules.Skips filter := by
  rintro ⟨error, herror, -⟩
  cases herror.symm.trans h

theorem spec_of_compiled (h : rules.compiler.catalog = .withGate enabled) {compiled : Compiled}
    (hcompiled : rules.compiler.compile filter = .ok compiled) :
    filter.Asks compiled.condition.operator ∧
      ∀ row, compiled.predicate.accepts row = true ↔ filter.Hits rules.compiler.siteNow row := by
  obtain ⟨found, hfound, hspec⟩ :=
    compiled_of_kept h (.inr ⟨compiled, hcompiled⟩) (kept_of_compiled hcompiled)
  obtain rfl : found = compiled := Except.ok.inj (hfound.symm.trans hcompiled)
  exact hspec

theorem requires_iff_satisfied {store : MemoryStore} {filters : List Filter} {contact : Contact}
    (h : rules.compiler.catalog = .withGate enabled) (keyed : store.KeyedById)
    (evaluates : ∀ filter ∈ filters, rules.Evaluates filter) :
    (rules.Requires filters fun compiled =>
        compiled.condition.operator.Admits contact (store.owners compiled.predicate)) ↔
      ∀ filter ∈ filters, ¬ rules.Skips filter → ∃ operator, filter.Asks operator ∧
        filter.SatisfiedBy rules.compiler.siteNow store contact operator := by
  constructor
  · intro hrequires filter hfilter hkept
    obtain ⟨compiled, hcompiled, hasks, hsame⟩ :=
      compiled_of_kept h (evaluates filter hfilter) hkept
    have hadmits := hrequires filter hfilter compiled hcompiled
    exact ⟨_, hasks, (MemoryStore.admits_owners keyed hsame _).mp hadmits⟩
  · intro hsatisfied filter hfilter compiled hcompiled
    obtain ⟨hasks, hsame⟩ := spec_of_compiled h hcompiled
    obtain ⟨operator, hoperator, hsatisfies⟩ :=
      hsatisfied filter hfilter (kept_of_compiled hcompiled)
    obtain rfl := Filter.asks_unique hoperator hasks
    exact (MemoryStore.admits_owners keyed hsame _).mpr hsatisfies

end Gate

/-- A successful run of valid rules selects the contacts that satisfy every filter that is not
skipped; and skipped is what has no known property, no operator or no selector. -/
theorem selected_iff_satisfied (settings : Settings) (gates : Gates) (now : Instant)
    (valid : settings.validate = .ok ()) (distinct : settings.contactColumns.Distinct)
    (isOpen : gates.areOpen settings.commerceProvider = true) :
    ∃ rules offset, Rules.new settings gates now = .ok rules ∧ settings.utcOffset = .ok offset ∧
      (∀ filter, rules.Skips filter ↔ ¬ filter.Usable) ∧
      ∀ (store after : MemoryStore) (filters : List Filter) (query : ContactQuery),
        store.failure = none → store.KeyedById →
        rules.apply filters (.new settings.contactColumns) store = (.ok (), query, after) →
        ∀ contact : Contact, contact.id ≠ 0 →
          (query.accepts contact = true ↔ ∀ filter ∈ filters, ¬ rules.Skips filter →
            ∃ operator, filter.Asks operator ∧
              filter.SatisfiedBy (now.onSite offset) store contact operator) := by
  obtain ⟨offset, hoffset, hnew⟩ := new_of_valid valid gates now
  refine ⟨_, offset, hnew, hoffset, fun filter => by rw [skips_iff rfl]; simp [isOpen], ?_⟩
  intro store after filters query sound keyed run contact known
  obtain ⟨hevaluates, haccepts⟩ :=
    apply_run distinct known sound (by simp [ContactQuery.new]) rfl run
  have hall : (ContactQuery.new settings.contactColumns).accepts contact = true := rfl
  rw [haccepts, hall, requires_iff_satisfied rfl keyed hevaluates]
  simp only [true_and]
  rfl

theorem new_standard : Rules.new .standard .billing ⟨⟨0, 0⟩⟩ = .ok standard := by decide +kernel

theorem apply_standard : ∃ query after,
    standard.apply Filter.activeNotExpiring (.new .standard) MemoryStore.twoCustomers =
      (.ok (), query, after) := ⟨_, _, rfl⟩

theorem selected_at_standard :
    ∃ rules query after,
      Rules.new .standard .billing ⟨⟨0, 0⟩⟩ = .ok rules ∧
      rules.apply Filter.activeNotExpiring (.new .standard) MemoryStore.twoCustomers =
        (.ok (), query, after) ∧
      ∀ contact : Contact, contact.id ≠ 0 →
        (query.accepts contact = true ↔
          ∀ filter ∈ Filter.activeNotExpiring, ¬ rules.Skips filter →
            ∃ operator, filter.Asks operator ∧
              filter.SatisfiedBy ⟨0, 0⟩ MemoryStore.twoCustomers contact operator) := by
  have hoffset : Settings.standard.utcOffset = .ok 0 := by decide +kernel
  obtain ⟨rules, offset, hrules, hsame, -, hselected⟩ := selected_iff_satisfied .standard .billing
    ⟨⟨0, 0⟩⟩ (by decide +kernel) (by decide) (by decide +kernel)
  obtain rfl := Except.ok.inj (hoffset.symm.trans hsame)
  obtain rfl := Except.ok.inj (new_standard.symm.trans hrules)
  obtain ⟨query, after, hrun⟩ := apply_standard
  exact ⟨_, query, after, new_standard, hrun, hselected _ _ _ _ rfl (by decide) hrun⟩

end Rules
end SegmentRules
