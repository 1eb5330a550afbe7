import SegmentRules.Proofs.Commerce.QueryText
import SegmentRules.Proofs.Contact.RestrictionText
import SegmentRules.Proofs.Settings.Valid

/-! # No data in the text of queries

Valid settings have plain names, so whatever is asked for stays outside of the text of queries. -/
namespace SegmentRules.Settings

open Commerce (CustomerLookup CustomerSubscriptionQuery MembershipQuery Predicate)
open Sql (isName isName_append isName_of_isIdentifier)

variable {settings : Settings}

theorem names_of_valid (valid : settings.validate = .ok ()) :
    isName settings.tablePrefix = true ∧
      ∀ entry ∈ settings.identifiers, isName entry.2 = true := by
  obtain ⟨hstart, hall⟩ := badIdentifier?_eq_none.mp (validate_eq_ok.mp valid).1
  exact ⟨hstart, fun entry hentry => isName_of_isIdentifier (hall entry hentry)⟩

theorem commerceNames_of_valid (valid : settings.validate = .ok ()) :
    ∀ name ∈ settings.schema.commerceNames, isName name = true := by
  obtain ⟨hstart, hall⟩ := names_of_valid valid
  simp only [identifiers, List.forall_mem_append, List.forall_mem_cons] at hall
  obtain ⟨⟨⟨⟨hsubscriptions, hcustomers, -⟩, hsubscription⟩, hcustomer⟩, -⟩ := hall
  simp only [Schema.commerceNames, schema, List.forall_mem_cons, List.forall_mem_map,
    List.forall_mem_append, isName_append, Bool.and_eq_true, hstart, true_and]
  simp only [columnNames, List.forall_mem_map] at hsubscription hcustomer
  exact ⟨hsubscriptions, hcustomers, hsubscription, hcustomer⟩

/-- The queries of valid settings are plain text with a placeholder for each value. Questions of one
shape have one text, and restrictions have the same text for sets of the same sizes. -/
theorem query_text_without_data (valid : settings.validate = .ok ()) :
    (∀ predicate, (MembershipQuery.new settings.schema predicate).fragment.IsPlain) ∧
    (∀ customer predicate,
      (CustomerSubscriptionQuery.new settings.schema customer predicate).fragment.IsPlain) ∧
    (∀ account email lookup, CustomerLookup.new? settings.schema account email = some lookup →
      lookup.fragment.IsPlain) ∧
    (∀ p q : Predicate, p.SameShape q →
      (MembershipQuery.new settings.schema p).fragment.sql =
        (MembershipQuery.new settings.schema q).fragment.sql ∧
      ∀ customer other,
        (CustomerSubscriptionQuery.new settings.schema customer p).fragment.sql =
          (CustomerSubscriptionQuery.new settings.schema other q).fragment.sql) ∧
    (∀ (account account' : Option UInt64) (email email' : Option String),
      account.isSome = account'.isSome → email.isSome = email'.isSome →
      (CustomerLookup.new? settings.schema account email).map (·.fragment.sql) =
        (CustomerLookup.new? settings.schema account' email').map (·.fragment.sql)) ∧
    ∀ (query : ContactQuery) (a b : List (Operator × IdentitySet)),
      a.map (Prod.map id IdentitySet.size) = b.map (Prod.map id IdentitySet.size) →
      (query.restrictAll settings.contactColumns a).toSql.sql =
        (query.restrictAll settings.contactColumns b).toSql.sql := by
  have hnames := commerceNames_of_valid valid
  refine ⟨?_, ?_, ?_, ?_, ?_, ?_⟩
  · exact Commerce.membershipQuery_isPlain hnames
  · exact Commerce.customerSubscriptionQuery_isPlain hnames
  · intro account email lookup hlookup
    exact Commerce.customerLookup_isPlain hnames hlookup
  · intro p q same
    exact ⟨same.membership_sql _, same.customerSubscription_sql _⟩
  · intro account account' email email' haccount hemail
    exact Commerce.lookup_sql_congr _ haccount hemail
  · intro query a b same
    exact ContactQuery.restrictAll_sql same query

theorem query_text_at_standard :
    standard.validate = .ok () ∧
    (∃ lookup, CustomerLookup.new? standard.schema none (some "a@example.com") = some lookup ∧
      lookup.fragment.IsPlain) ∧
    (MembershipQuery.new standard.schema ⟨[⟨7, none⟩], [.active], none⟩).fragment.sql =
      (MembershipQuery.new standard.schema ⟨[⟨8, none⟩], [.expired], none⟩).fragment.sql ∧
    (CustomerLookup.new? standard.schema (some 5) none).map (·.fragment.sql) =
      (CustomerLookup.new? standard.schema (some 6) none).map (·.fragment.sql) ∧
    ((ContactQuery.new .standard).restrictAll .standard [(.member, ⟨[5], []⟩)]).toSql.sql =
      ((ContactQuery.new .standard).restrictAll .standard [(.member, ⟨[6], []⟩)]).toSql.sql := by
  have hfault : standard.fault? = none := by decide +kernel
  have valid : standard.validate = .ok () := by rw [validate, hfault]
  obtain ⟨-, -, hlookup, hshape, hkeys, hsizes⟩ := query_text_without_data valid
  refine ⟨valid, ⟨_, rfl, hlookup none (some "a@example.com") _ rfl⟩, ?_, ?_, ?_⟩
  · exact (hshape _ _ ⟨rfl, rfl, fun _ => rfl⟩).1
  · exact hkeys _ _ _ _ rfl rfl
  · exact hsizes _ _ _ rfl

end SegmentRules.Settings
