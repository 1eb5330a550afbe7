import SegmentRules.Proofs.Rules.Selection

/-! # Queries and assessments agree

A query decides by the keys of all owners, an assessment by the one customer the contact stands
for. With several linked customers each sees owners that the other does not ask for. -/
namespace SegmentRules

open Commerce (MemoryStore Predicate)

/-- Nobody but one customer shares a key with the contact. -/
def Commerce.MemoryStore.LinksOnce (store : MemoryStore) (contact : Contact) : Prop :=
  ∀ a ∈ store.customers, ∀ b ∈ store.customers, contact.Shares a.account a.email →
    contact.Shares b.account b.email → a = b

namespace Commerce.MemoryStore

variable {store : MemoryStore} {schema : Schema} {contact : Contact} {predicate : Predicate}

theorem shares_of_isMember (keyed : store.KeyedById)
    (h : store.isMember schema contact predicate = true) :
    ∃ row ∈ store.owners predicate, contact.Shares row.account row.email := by
  rcases store.customerOf?_cases schema contact with
    ⟨hnobody, -⟩ | ⟨picked, hmem, hshares, hpicked⟩
  · simp [isMember, hnobody] at h
  · have howns : store.owns picked.id predicate = true := by simpa [isMember, hpicked] using h
    exact ⟨_, (mem_owners keyed).mpr ⟨picked, hmem, howns, rfl⟩, hshares⟩

theorem isMember_of_shares (keyed : store.KeyedById) (once : store.LinksOnce contact)
    (h : ∃ row ∈ store.owners predicate, contact.Shares row.account row.email) :
    store.isMember schema contact predicate = true := by
  obtain ⟨row, hrow, hshares⟩ := h
  obtain ⟨owner, howner, howns, rfl⟩ := (mem_owners keyed).mp hrow
  rcases store.customerOf?_cases schema contact with
    ⟨-, hnobody⟩ | ⟨picked, hmem, hlinked, hpicked⟩
  · exact absurd hshares (hnobody owner howner)
  · obtain rfl := once owner howner picked hmem hshares hlinked
    simp [isMember, hpicked, howns]

theorem admits_of_member_passes (keyed : store.KeyedById)
    (h : Operator.member.passes (store.isMember schema contact predicate) = true) :
    Operator.member.Admits contact (store.owners predicate) :=
  shares_of_isMember keyed h

theorem nonMember_passes_of_admits (keyed : store.KeyedById)
    (h : Operator.nonMember.Admits contact (store.owners predicate)) :
    Operator.nonMember.passes (store.isMember schema contact predicate) = true := by
  by_contra hfails
  have hmember : store.isMember schema contact predicate = true := by
    simpa [Operator.passes] using hfails
  obtain ⟨row, hrow, hshares⟩ := shares_of_isMember keyed hmember
  exact h.1 row hrow hshares

theorem admits_iff_passes (keyed : store.KeyedById) (once : store.LinksOnce contact)
    (account : contact.account ≠ none) (email : contact.email ≠ none) (schema : Schema)
    (predicate : Predicate) (operator : Operator) :
    operator.Admits contact (store.owners predicate) ↔
      operator.passes (store.isMember schema contact predicate) = true := by
  cases operator with
  | member => exact ⟨isMember_of_shares keyed once, admits_of_member_passes keyed⟩
  | nonMember =>
    refine ⟨nonMember_passes_of_admits keyed, fun hpasses => ⟨fun row hrow hshares => ?_, ?_, ?_⟩⟩
    · have hmember : store.isMember schema contact predicate = true :=
        isMember_of_shares keyed once ⟨row, hrow, hshares⟩
      simp [Operator.passes, hmember] at hpasses
    · exact fun hnull => absurd hnull account
    · exact fun hnull => absurd hnull email

end Commerce.MemoryStore

namespace Rules

/-- If all kept filters ask for one operator, it is enough to look at conditions with it. -/
theorem requires_of_all_ask {rules : Rules} {enabled : Bool} {filters : List Filter}
    {operator : Operator} {P Q : Compiled → Prop}
    (h : rules.compiler.catalog = .withGate enabled)
    (asks : ∀ filter ∈ filters, ¬ rules.Skips filter → filter.Asks operator)
    (hstep : ∀ compiled, compiled.condition.operator = operator → P compiled → Q compiled)
    (hrequires : rules.Requires filters P) : rules.Requires filters Q := by
  intro filter hfilter compiled hcompiled
  obtain ⟨hasks, -⟩ := spec_of_compiled h hcompiled
  have hsame := Filter.asks_unique hasks (asks filter hfilter (kept_of_compiled hcompiled))
  exact hstep compiled hsame (hrequires filter hfilter compiled hcompiled)

/-- Where a query can be built, a contact can be assessed. The query selects it exactly if the
assessment passes it, unless several customers are linked or a key is null; then one way still
implies the other as long as all filters ask for members, or all for the others. -/
theorem selection_agrees_with_assessment (settings : Settings) (gates : Gates) (now : Instant)
    (valid : settings.validate = .ok ()) (distinct : settings.contactColumns.Distinct) :
    ∃ rules, Rules.new settings gates now = .ok rules ∧
      ∀ (store after : MemoryStore) (filters : List Filter) (query : ContactQuery),
        store.failure = none → store.KeyedById →
        rules.apply filters (.new settings.contactColumns) store = (.ok (), query, after) →
        ∀ contact : Contact, contact.id ≠ 0 →
          ∃ assessment final,
            rules.assess contact true filters store = (.ok assessment, final) ∧
            (store.LinksOnce contact → contact.account ≠ none → contact.email ≠ none →
              (query.accepts contact = true ↔ assessment.passed = true)) ∧
            ((∀ filter ∈ filters, ¬ rules.Skips filter → filter.Asks .member) →
              assessment.passed = true → query.accepts contact = true) ∧
            ((∀ filter ∈ filters, ¬ rules.Skips filter → filter.Asks .nonMember) →
              query.accepts contact = true → assessment.passed = true) := by
  obtain ⟨offset, -, hnew⟩ := new_of_valid valid gates now
  refine ⟨_, hnew, ?_⟩
  intro store after filters query sound keyed run contact known
  obtain ⟨hevaluates, haccepts⟩ :=
    apply_run distinct known sound (by simp [ContactQuery.new]) rfl run
  obtain ⟨assessment, final, hassess, hpassed⟩ := assess_run sound hevaluates contact true
  have hall : (ContactQuery.new settings.contactColumns).accepts contact = true := rfl
  simp only [hall, true_and] at haccepts hpassed
  refine ⟨assessment, final, hassess, ?_, ?_, ?_⟩
  · intro once account email
    rw [haccepts, hpassed]
    simp only [MemoryStore.admits_iff_passes keyed once account email settings.schema]
  · intro asks hpass
    refine haccepts.mpr (requires_of_all_ask rfl asks ?_ (hpassed.mp hpass))
    intro compiled hmember hpasses
    rw [hmember] at hpasses ⊢
    exact MemoryStore.admits_of_member_passes keyed hpasses
  · intro asks hselected
    refine hpassed.mpr (requires_of_all_ask rfl asks ?_ (haccepts.mp hselected))
    intro compiled hother hadmits
    rw [hother] at hadmits ⊢
    exact MemoryStore.nonMember_passes_of_admits keyed hadmits

theorem selection_agrees_at_standard :
    ∃ rules query after,
      Rules.new .standard .billing ⟨⟨0, 0⟩⟩ = .ok rules ∧
      rules.apply Filter.activeNotExpiring (.new .standard) MemoryStore.twoCustomers =
        (.ok (), query, after) ∧
      ∃ assessment final,
        rules.assess ⟨3, some 5, some "a@example.com"⟩ true Filter.activeNotExpiring
          MemoryStore.twoCustomers = (.ok assessment, final) ∧
        (query.accepts ⟨3, some 5, some "a@example.com"⟩ = true ↔ assessment.passed = true) := by
  obtain ⟨rules, hrules, hagrees⟩ := selection_agrees_with_assessment .standard .billing
    ⟨⟨0, 0⟩⟩ (by decide +kernel) (by decide)
  obtain rfl := Except.ok.inj (new_standard.symm.trans hrules)
  obtain ⟨query, after, hrun⟩ := apply_standard
  have honce : MemoryStore.twoCustomers.LinksOnce ⟨3, some 5, some "a@example.com"⟩ := by
    simp [MemoryStore.LinksOnce, MemoryStore.twoCustomers, Contact.Shares]
  obtain ⟨assessment, final, hassess, hsame, -, -⟩ := hagrees _ _ _ _ rfl (by decide) hrun
    ⟨3, some 5, some "a@example.com"⟩ (by decide)
  exact ⟨_, query, after, new_standard, hrun, assessment, final, hassess,
    hsame honce (by simp) (by simp)⟩

end Rules
end SegmentRules
