import SegmentRules.Proofs.Rules.Selection

/-! # Nested kinds of conditions

A subscription that expires within some days expires within more, is active, and is one at all. So
later kinds find more identities: more contacts pass their `in` filters, and fewer the others. -/
namespace SegmentRules

open Commerce (MemoryStore Predicate Store Subscription)

namespace Timestamp

theorem le_trans {a b c : Timestamp} (hab : a.le b = true) (hbc : b.le c = true) :
    a.le c = true := by
  simp only [le, Bool.or_eq_true, Bool.and_eq_true, decide_eq_true_eq, beq_iff_eq] at *
  omega

theorem endOfDay_mono {a b : Int} (h : a ≤ b) : (endOfDay a).le (endOfDay b) = true := by
  have hlast : a * 86400 + 86399 < b * 86400 + 86399 ∨ a * 86400 + 86399 = b * 86400 + 86399 := by
    omega
  simpa [le, endOfDay] using hlast

end Timestamp

namespace Kind

/-- Whatever subscription the one kind asks for, the other asks for at the same time. -/
def Implies (a b : Kind) : Prop :=
  ∀ (siteNow : Timestamp) (row : Subscription), a.Wants siteNow row → b.Wants siteNow row

theorem expiring_implies_longer {a b : UInt32} (h : a ≤ b) :
    Implies (.expiringWithin a) (.expiringWithin b) := by
  rintro siteNow row ⟨hactive, t, ht, hstart, hend⟩
  have hday : siteNow.dayNumber + a.toNat ≤ siteNow.dayNumber + b.toNat :=
    Int.add_le_add_left (Int.ofNat_le.mpr h) _
  exact ⟨hactive, t, ht, hstart, Timestamp.le_trans hend (Timestamp.endOfDay_mono hday)⟩

theorem expiring_implies_active (days : UInt32) :
    Implies (.expiringWithin days) (.hasSubscription (some .active)) := by
  rintro siteNow row ⟨hactive, -⟩
  exact hactive

theorem implies_any (kind : Kind) : Implies kind (.hasSubscription none) :=
  fun _ _ _ => trivial

/-- The offered kinds that ask for active subscriptions and the kind that asks for any, from the
strictest on. -/
def nested : List Kind :=
  Catalog.expiringDays.map .expiringWithin ++
    [.hasSubscription (some .active), .hasSubscription none]

theorem nested_offered : ∀ kind ∈ nested, kind ∈ Catalog.kinds := by decide

theorem nested_pairwise : nested.Pairwise Implies := by
  have hdays : Catalog.expiringDays.Pairwise (· ≤ ·) := by decide
  refine List.pairwise_append.mpr ⟨?_, ?_, ?_⟩
  · exact List.pairwise_map.mpr (hdays.imp expiring_implies_longer)
  · simp [implies_any]
  · intro a ha b hb
    obtain ⟨days, -, rfl⟩ := List.mem_map.mp ha
    simp only [List.mem_cons, List.not_mem_nil, or_false] at hb
    rcases hb with rfl | rfl
    · exact expiring_implies_active days
    · exact implies_any _

example : nested.map key =
    ["subscription_expiring_7d", "subscription_expiring_14d", "subscription_expiring_30d",
      "subscription_expiring_60d", "has_subscription_active", "has_subscription_any"] := by
  decide

end Kind

theorem Filter.hits_of_implies {f g : Filter} {a b : Kind} (ha : a ∈ Catalog.kinds)
    (hb : b ∈ Catalog.kinds) (implies : a.Implies b) (hf : f.property = a.key)
    (hg : g.property = b.key) (same : f.tokens = g.tokens) {siteNow : Timestamp}
    {row : Subscription} (h : f.Hits siteNow row) : g.Hits siteNow row := by
  obtain ⟨kind, hkind, hkey, ⟨selector, hholds, hnames⟩, hwants⟩ := h
  obtain rfl := key_injective_on_kinds kind hkind a ha (hkey.trans hf)
  have hholds' : g.Holds selector := by
    rw [Filter.holds_iff, ← same, ← Filter.holds_iff]
    exact hholds
  exact ⟨b, hb, hg.symm, ⟨selector, hholds', hnames⟩, implies siteNow row hwants⟩

/-! ## More rows -/

theorem IdentitySet.ofRows_mono {small large : List IdentityRow} (h : small ⊆ large) :
    (ofRows small).accounts ⊆ (ofRows large).accounts ∧
      (ofRows small).emails ⊆ (ofRows large).emails := by
  constructor
  · intro word hword
    obtain ⟨row, hrow, haccount⟩ := mem_accounts_ofRows.mp hword
    exact mem_accounts_ofRows.mpr ⟨row, h hrow, haccount⟩
  · intro text htext
    obtain ⟨row, hrow, hemail⟩ := mem_emails_ofRows.mp htext
    exact mem_emails_ofRows.mpr ⟨row, h hrow, hemail⟩

theorem Operator.member_admits_mono {contact : Contact} {small large : List IdentityRow}
    (h : small ⊆ large) (hadmits : member.Admits contact small) : member.Admits contact large := by
  obtain ⟨row, hrow, hshares⟩ := hadmits
  exact ⟨row, h hrow, hshares⟩

theorem Operator.nonMember_admits_anti {contact : Contact} {small large : List IdentityRow}
    (h : small ⊆ large) (hadmits : nonMember.Admits contact large) :
    nonMember.Admits contact small := by
  obtain ⟨hshares, haccount, hemail⟩ := hadmits
  exact ⟨fun row hrow => hshares row (h hrow), fun hnull row hrow => haccount hnull row (h hrow),
    fun hnull row hrow => hemail hnull row (h hrow)⟩

namespace Commerce

def Predicate.Within (p q : Predicate) : Prop := ∀ row, p.accepts row = true → q.accepts row = true

namespace MemoryStore

variable {store : MemoryStore} {p q : Predicate} (within : p.Within q)
include within

theorem owns_mono {customer : UInt64} (h : store.owns customer p = true) :
    store.owns customer q = true := by
  obtain ⟨row, hrow, hcustomer, haccepts⟩ := owns_iff.mp h
  exact owns_iff.mpr ⟨row, hrow, hcustomer, within row haccepts⟩

theorem owners_mono (store : MemoryStore) : store.owners p ⊆ store.owners q := by
  intro row hrow
  obtain ⟨subscription, hcounts, howner⟩ := List.mem_filterMap.mp hrow
  obtain ⟨hmem, haccepts⟩ := List.mem_filter.mp hcounts
  exact List.mem_filterMap.mpr
    ⟨subscription, List.mem_filter.mpr ⟨hmem, within subscription haccepts⟩, howner⟩

theorem isMember_mono {schema : Schema} {contact : Contact}
    (h : store.isMember schema contact p = true) : store.isMember schema contact q = true := by
  obtain ⟨customer, hcustomer, howns⟩ := Option.any_eq_true _ _ |>.mp h
  exact Option.any_eq_true _ _ |>.mpr ⟨customer, hcustomer, owns_mono within howns⟩

end MemoryStore
end Commerce

/-! ## Single filters -/

namespace Rules

def Resolves (rules : Rules) (store : MemoryStore) (filter : Filter) (found : IdentitySet) : Prop :=
  ∃ compiled after, rules.compiler.compile filter = .ok compiled ∧
    resolve rules.schema compiled.predicate store = (.ok found, after)

def Selects (rules : Rules) (store : MemoryStore) (filter : Filter) (contact : Contact) : Prop :=
  ∃ query after, rules.apply [filter] (.new rules.schema.contact) store = (.ok (), query, after) ∧
    query.accepts contact = true

/-- A contact that passed so far passes the filter, too. -/
def Passes (rules : Rules) (store : MemoryStore) (filter : Filter) (contact : Contact) : Prop :=
  ∃ assessment after, rules.assess contact true [filter] store = (.ok assessment, after) ∧
    assessment.passed = true

section Compiled

variable {rules : Rules} {store : MemoryStore} {filter : Filter} {compiled : Compiled}
  {contact : Contact} (sound : store.failure = none)
  (hcompiled : rules.compiler.compile filter = .ok compiled)
include sound hcompiled

theorem resolves_owners : rules.Resolves store filter (.ofRows (store.owners compiled.predicate)) :=
  ⟨compiled, _, hcompiled, MemoryStore.resolve_eq sound _ _⟩

theorem selects_iff (distinct : rules.schema.contact.Distinct) (known : contact.id ≠ impossibleId) :
    rules.Selects store filter contact ↔
      compiled.condition.operator.Admits contact (store.owners compiled.predicate) := by
  have hrun : rules.apply [filter] (.new rules.schema.contact) store =
      (.ok (), (ContactQuery.new rules.schema.contact).restrict rules.schema.contact
          compiled.condition.operator (.ofRows (store.owners compiled.predicate)),
        store.asked 1) := by
    simp [apply, hcompiled, MemoryStore.resolve_eq sound]
  have hnew : ∀ clause ∈ (ContactQuery.new rules.schema.contact).clauses,
      clause.connector = .conj := by simp [ContactQuery.new]
  have hall : (ContactQuery.new rules.schema.contact).accepts contact = true := rfl
  obtain ⟨-, haccepts⟩ := ContactQuery.restrict_accepts distinct known rfl hnew
    compiled.condition.operator (store.owners compiled.predicate)
  simp only [Selects, hrun, Prod.mk.injEq, true_and, ← haccepts.trans (and_iff_right hall)]
  simp

theorem passes_iff : rules.Passes store filter contact ↔
    compiled.condition.operator.passes
      (store.isMember rules.schema contact compiled.predicate) = true := by
  have hevaluates : ∀ f ∈ [filter], rules.Evaluates f :=
    List.forall_mem_singleton.mpr (.inr ⟨compiled, hcompiled⟩)
  obtain ⟨assessment, after, hrun, hpassed⟩ := assess_run sound hevaluates contact true
  simp only [Passes, hrun, Prod.mk.injEq, Except.ok.injEq]
  simp [hpassed, Requires, hcompiled]

end Compiled

theorem within_of_implies {rules : Rules} {enabled : Bool} {f g : Filter} {a b : Kind}
    {narrow wide : Compiled} (h : rules.compiler.catalog = .withGate enabled)
    (ha : a ∈ Catalog.kinds) (hb : b ∈ Catalog.kinds) (implies : a.Implies b)
    (hf : f.property = a.key) (hg : g.property = b.key) (same : f.tokens = g.tokens)
    (hnarrow : rules.compiler.compile f = .ok narrow)
    (hwide : rules.compiler.compile g = .ok wide) : narrow.predicate.Within wide.predicate := by
  intro row haccepts
  have hhits : f.Hits rules.compiler.siteNow row :=
    ((spec_of_compiled h hnarrow).2 row).mp haccepts
  exact ((spec_of_compiled h hwide).2 row).mpr
    (Filter.hits_of_implies ha hb implies hf hg same hhits)

/-- Filters with the same tokens find nested identities if their kinds are nested. A contact that
passes an `in` filter passes the later ones, and a contact that passes a `not_in` filter the earlier
ones, be it by a query or by an assessment. -/
theorem kinds_nested (settings : Settings) (gates : Gates) (now : Instant)
    (valid : settings.validate = .ok ()) (distinct : settings.contactColumns.Distinct) :
    ∃ rules, Rules.new settings gates now = .ok rules ∧
      ∀ store : MemoryStore, store.failure = none →
        Kind.nested.Pairwise fun earlier later => ∀ f g : Filter,
          f.property = earlier.key → g.property = later.key → f.tokens = g.tokens →
          (∃ compiled, rules.compiler.compile f = .ok compiled) →
          (∃ compiled, rules.compiler.compile g = .ok compiled) →
          (∃ small large, rules.Resolves store f small ∧ rules.Resolves store g large ∧
            small.accounts ⊆ large.accounts ∧ small.emails ⊆ large.emails) ∧
          ∀ contact : Contact, contact.id ≠ 0 →
            (f.Asks .member → g.Asks .member →
              (rules.Selects store f contact → rules.Selects store g contact) ∧
              (rules.Passes store f contact → rules.Passes store g contact)) ∧
            (f.Asks .nonMember → g.Asks .nonMember →
              (rules.Selects store g contact → rules.Selects store f contact) ∧
              (rules.Passes store g contact → rules.Passes store f contact)) := by
  obtain ⟨offset, -, hnew⟩ := new_of_valid valid gates now
  refine ⟨_, hnew, fun store sound => ?_⟩
  refine Kind.nested_pairwise.imp_of_mem fun {earlier later} hearlier hlater implies => ?_
  rintro f g hf hg same ⟨narrow, hnarrow⟩ ⟨wide, hwide⟩
  have within : narrow.predicate.Within wide.predicate :=
    within_of_implies rfl (Kind.nested_offered _ hearlier) (Kind.nested_offered _ hlater) implies
      hf hg same hnarrow hwide
  have howners := MemoryStore.owners_mono within store
  refine ⟨⟨_, _, resolves_owners sound hnarrow, resolves_owners sound hwide,
    IdentitySet.ofRows_mono howners⟩, fun contact known => ?_⟩
  rw [selects_iff sound hnarrow distinct known, selects_iff sound hwide distinct known,
    passes_iff sound hnarrow, passes_iff sound hwide]
  have hasked : ∀ operator, f.Asks operator → g.Asks operator →
      narrow.condition.operator = operator ∧ wide.condition.operator = operator := by
    intro operator hasks hasks'
    exact ⟨Filter.asks_unique (spec_of_compiled rfl hnarrow).1 hasks,
      Filter.asks_unique (spec_of_compiled rfl hwide).1 hasks'⟩
  constructor
  · intro hasks hasks'
    obtain ⟨hoperator, hoperator'⟩ := hasked .member hasks hasks'
    rw [hoperator, hoperator']
    exact ⟨Operator.member_admits_mono howners, MemoryStore.isMember_mono within⟩
  · intro hasks hasks'
    obtain ⟨hoperator, hoperator'⟩ := hasked .nonMember hasks hasks'
    rw [hoperator, hoperator']
    refine ⟨Operator.nonMember_admits_anti howners, fun hpasses => ?_⟩
    by_contra hmember
    have hwider := MemoryStore.isMember_mono within (by simpa [Operator.passes] using hmember)
    simp [Operator.passes, hwider] at hpasses

theorem kinds_nested_at_standard :
    standard.Selects MemoryStore.twoCustomers (.new "subscription_expiring_7d" .member ["7"])
      ⟨3, none, some "b@example.com"⟩ ∧
    standard.Selects MemoryStore.twoCustomers (.new "has_subscription_active" .member ["7"])
      ⟨3, none, some "b@example.com"⟩ := by
  obtain ⟨rules, hrules, hnested⟩ := kinds_nested .standard .billing ⟨⟨0, 0⟩⟩
    (by decide +kernel) (by decide)
  obtain rfl := Except.ok.inj (new_standard.symm.trans hrules)
  have hselects : standard.Selects MemoryStore.twoCustomers
      (.new "subscription_expiring_7d" .member ["7"]) ⟨3, none, some "b@example.com"⟩ :=
    ⟨_, _, rfl, by decide⟩
  obtain ⟨-, hpasses⟩ := (List.pairwise_cons.mp (hnested MemoryStore.twoCustomers rfl)).1
    (.hasSubscription (some .active)) (by decide)
    (.new "subscription_expiring_7d" .member ["7"]) (.new "has_subscription_active" .member ["7"])
    rfl rfl rfl ⟨_, rfl⟩ ⟨_, rfl⟩
  have hmember := (hpasses ⟨3, none, some "b@example.com"⟩ (by decide)).1
    (.inr (.inr rfl)) (.inr (.inr rfl))
  exact ⟨hselects, hmember.1 hselects⟩

end Rules
end SegmentRules
