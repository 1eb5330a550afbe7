import SegmentRules.Proofs.Commerce.RowOrder
import SegmentRules.Proofs.Contact.QuerySql

/-! # Customers of a lookup

A lookup is answered with the customers that its SQL is true of, by id and each once. Only an
account of 2 ^ 63 or more is taken for another number than in the SQL: for the negative account with
the same bits. -/
namespace SegmentRules.Commerce

open Settings (isIdentifier)
open Sql (Formula)

namespace Customer

/-- The customer has the account, as an integer, or the email. -/
def HasKey (customer : Customer) (account : Option UInt64) (email : Option String) : Prop :=
  (∃ id held, account = some id ∧ customer.account = some held ∧ held.toInt = id.toNat) ∨
    ∃ text, email = some text ∧ customer.email = some text

/-- The customer has the negative account with the bits of the account. -/
def HasWrapped (customer : Customer) (account : Option UInt64) : Prop :=
  ∃ id held, account = some id ∧ customer.account = some held ∧ held.toInt + 2 ^ 64 = id.toNat

/-- A customer as a row of its table, which has the columns that a table of contacts has. -/
def row (customer : Customer) (columns : IdentityColumns) : Sql.Row :=
  Contact.row ⟨customer.id, customer.account, customer.email⟩ columns

variable {customer : Customer} {columns : IdentityColumns}

private theorem compare_eq_yes {column : String} {value : Sql.Value} :
    (customer.row columns).compare ⟨none, column⟩ .equal value = .yes ↔
      ∃ held, columns.valueOf column ⟨customer.id, customer.account, customer.email⟩ = some held ∧
        held.datum = value.datum := by
  cases hvalue : columns.valueOf column ⟨customer.id, customer.account, customer.email⟩ with
  | none =>
    rw [row, Contact.compare_null hvalue]
    simp
  | some held =>
    rw [row, Contact.compare_value hvalue]
    simp [Sql.Value.same_iff]

theorem account_truth (distinct : columns.Distinct) (id : UInt64) :
    (customer.row columns).compare ⟨none, columns.accountId⟩ .equal (.uint id) = .yes ↔
      ∃ held, customer.account = some held ∧ held.toInt = id.toNat := by
  rw [compare_eq_yes, columns.valueOf_account _ distinct]
  simp [Sql.Value.datum]

theorem email_truth (distinct : columns.Distinct) (text : String) :
    (customer.row columns).compare ⟨none, columns.email⟩ .equal (.text text) = .yes ↔
      customer.email = some text := by
  rw [compare_eq_yes, columns.valueOf_email _ distinct]
  simp [Sql.Value.datum]

end Customer

theorem eq_toInt64_iff {id : UInt64} {held : Int64} :
    held = id.toInt64 ↔ held.toInt = id.toNat ∨ held.toInt + 2 ^ 64 = id.toNat := by
  have hid : id.toNat < 2 ^ 64 := id.toNat_lt
  have hlow := held.le_toInt
  have hhigh := held.toInt_lt
  have hword : id.toInt64.toInt =
      if 2 * id.toNat < 2 ^ 64 then (id.toNat : Int) else id.toNat - 2 ^ 64 :=
    BitVec.toInt_eq_toNat_cond id.toBitVec
  rw [← Int64.toInt_inj, hword]
  split <;> omega

namespace CustomerLookup

variable {schema : Schema} {account : Option UInt64} {email : Option String}
  {lookup : CustomerLookup}

theorem keys_of_new? (made : new? schema account email = some lookup) :
    lookup.account = account ∧ lookup.email = email := by
  simp only [new?] at made
  split at made
  · cases made
  · obtain rfl := Option.some.inj made
    exact ⟨rfl, rfl⟩

/-- The text between WHERE and ORDER BY is read as the alternative of the keys that are given. -/
theorem new?_reads (made : new? schema account email = some lookup)
    (haccount : isIdentifier schema.customer.accountId = true)
    (hemail : isIdentifier schema.customer.email = true) :
    ∃ text formula,
      lookup.fragment.sql =
        "SELECT " ++ schema.customer.id ++ ", " ++ schema.customer.accountId ++ ", " ++
          schema.customer.email ++ " FROM " ++ schema.customersTable ++ " WHERE " ++ text ++
          " ORDER BY " ++ schema.customer.id ∧
      Sql.Fragment.formula? ⟨text, lookup.fragment.params⟩ = some formula ∧
      ∀ row : Sql.Row, formula.truth row = .yes ↔
        (∃ id, account = some id ∧
          row.compare ⟨none, schema.customer.accountId⟩ .equal (.uint id) = .yes) ∨
        ∃ text, email = some text ∧
          row.compare ⟨none, schema.customer.email⟩ .equal (.text text) = .yes := by
  have haccounts (id : UInt64) := (Sql.isColumn_name haccount).compare .equal (.uint id)
  have hemails (text : String) := (Sql.isColumn_name hemail).compare .equal (.text text)
  cases account with
  | none =>
    cases email with
    | none => cases made
    | some text =>
      obtain rfl := Option.some.inj made
      refine ⟨_, _, rfl, (hemails text).formula?, ?_⟩
      intro row
      simp [Formula.truth, Sql.Reading.formula]
  | some id =>
    cases email with
    | none =>
      obtain rfl := Option.some.inj made
      refine ⟨_, _, rfl, (haccounts id).formula?, ?_⟩
      intro row
      simp [Formula.truth, Sql.Reading.formula]
    | some text =>
      obtain rfl := Option.some.inj made
      have hboth : ∀ a b : String, String.intercalate " OR " [a, b] = a ++ (" OR " ++ b) := by
        intro a b
        simp [String.append_assoc]
      refine ⟨_, _, ?_, ((haccounts id).append (hemails text).disj).formula?, ?_⟩
      · rw [Sql.Comparison.sql, ← hboth]
        rfl
      · intro row
        rw [Sql.Reading.formula_eq_yes]
        simp [Formula.truth, Sql.Reading.formula, Sql.Reading.disj, Sql.Slot.fill, Sql.Slot.start]

end CustomerLookup

namespace MemoryStore

variable {store : MemoryStore} {lookup : CustomerLookup}

theorem isLookedUp_iff {customer : Customer} :
    isLookedUp lookup customer = true ↔
      customer.HasKey lookup.account lookup.email ∨ customer.HasWrapped lookup.account := by
  have haccount : lookup.account.any (fun id => customer.account == some id.toInt64) = true ↔
      ∃ id held, lookup.account = some id ∧ customer.account = some held ∧
        (held.toInt = id.toNat ∨ held.toInt + 2 ^ 64 = id.toNat) := by
    simp only [← eq_toInt64_iff, Option.any_eq_true, beq_iff_eq]
    constructor
    · rintro ⟨id, hid, hheld⟩
      exact ⟨id, _, hid, hheld, rfl⟩
    · rintro ⟨id, held, hid, hheld, rfl⟩
      exact ⟨id, hid, hheld⟩
  have hemail : lookup.email.any (fun text => customer.email == some text) = true ↔
      ∃ text, lookup.email = some text ∧ customer.email = some text := by
    simp [Option.any_eq_true]
  rw [isLookedUp, Bool.or_eq_true, haccount, hemail, Customer.HasKey, Customer.HasWrapped]
  simp only [and_or_left, exists_or]
  exact or_right_comm

theorem lookUp_ascending (keyed : store.KeyedById) (lookup : CustomerLookup) :
    (store.lookUp lookup).Pairwise fun a b => a.id < b.id := by
  have hselected : ((store.customers.filter (isLookedUp lookup)).map Customer.id).Nodup :=
    keyed.sublist (List.filter_sublist.map Customer.id)
  have hids : ((store.lookUp lookup).map Customer.id).Nodup :=
    ((store.lookUp_perm lookup).map Customer.id).nodup_iff.mpr hselected
  have hdistinct : (store.lookUp lookup).Pairwise fun a b => a.id ≠ b.id :=
    List.pairwise_map.mp hids
  apply ((store.lookUp_sorted lookup).and hdistinct).imp
  rintro a b ⟨hle, hne⟩
  exact UInt64.lt_of_le_of_ne hle hne

/-- A store that does not fail answers a lookup with customers by id, each of them once: those with
the account or the email, and those whose negative account has the bits of the account. Up to the
largest signed word the latter are none, so the answer is what the SQL of the lookup is true of. -/
theorem lookUp_exact (store : MemoryStore) (keyed : store.KeyedById)
    (sound : store.failure = none) (schema : Schema) (account : Option UInt64)
    (email : Option String) (lookup : CustomerLookup)
    (made : CustomerLookup.new? schema account email = some lookup) :
    (∃ rows, Store.customers lookup store = (.ok rows, store.asked 1) ∧
      rows.Pairwise (fun a b => a.id < b.id) ∧
      (∀ customer, customer ∈ rows ↔ customer ∈ store.customers ∧
        (customer.HasKey account email ∨ customer.HasWrapped account)) ∧
      ((∀ id, account = some id → id.toNat < 2 ^ 63) →
        ∀ customer, customer ∈ rows ↔
          customer ∈ store.customers ∧ customer.HasKey account email)) ∧
    (isIdentifier schema.customer.accountId = true → isIdentifier schema.customer.email = true →
      schema.customer.Distinct →
      ∃ text formula,
        lookup.fragment.sql =
          "SELECT " ++ schema.customer.id ++ ", " ++ schema.customer.accountId ++ ", " ++
            schema.customer.email ++ " FROM " ++ schema.customersTable ++ " WHERE " ++ text ++
            " ORDER BY " ++ schema.customer.id ∧
        Sql.Fragment.formula? ⟨text, lookup.fragment.params⟩ = some formula ∧
        ∀ customer : Customer, formula.truth (customer.row schema.customer) = .yes ↔
          customer.HasKey account email) := by
  obtain ⟨rfl, rfl⟩ := CustomerLookup.keys_of_new? made
  have hmem : ∀ customer, customer ∈ store.lookUp lookup ↔ customer ∈ store.customers ∧
      (customer.HasKey lookup.account lookup.email ∨ customer.HasWrapped lookup.account) := by
    intro customer
    rw [(store.lookUp_perm lookup).mem_iff, List.mem_filter, isLookedUp_iff]
  constructor
  · refine ⟨_, answer_of_sound sound _, lookUp_ascending keyed lookup, hmem, ?_⟩
    intro small customer
    have hnone : ¬ customer.HasWrapped lookup.account := by
      rintro ⟨id, held, hid, -, hwrapped⟩
      have hlow := held.le_toInt
      have hsmall := small id hid
      omega
    rw [hmem, or_iff_left hnone]
  · intro haccount hemail distinct
    obtain ⟨text, formula, hsql, hread, htruth⟩ :=
      CustomerLookup.new?_reads made haccount hemail
    refine ⟨text, formula, hsql, hread, ?_⟩
    intro customer
    rw [htruth, Customer.HasKey]
    simp only [Customer.account_truth distinct, Customer.email_truth distinct, exists_and_left]

theorem lookUp_exact_of_sharedKeys :
    sharedKeys.KeyedById ∧ sharedKeys.failure = none ∧
    ∃ lookup, CustomerLookup.new? Settings.standard.schema (some 5) (some "a@example.com") =
        some lookup ∧
      (∃ rows, Store.customers lookup sharedKeys = (.ok rows, sharedKeys.asked 1) ∧
        rows.Pairwise (fun a b => a.id < b.id) ∧
        ∀ customer, customer ∈ rows ↔ customer ∈ sharedKeys.customers ∧
          customer.HasKey (some 5) (some "a@example.com")) ∧
      ∃ text formula,
        lookup.fragment.sql =
          "SELECT id, user_id, email FROM wp_edd_customers WHERE " ++ text ++ " ORDER BY " ++
            "id" ∧
        Sql.Fragment.formula? ⟨text, lookup.fragment.params⟩ = some formula ∧
        ∀ customer : Customer, formula.truth (customer.row .standard) = .yes ↔
          customer.HasKey (some 5) (some "a@example.com") := by
  have hkeyed : sharedKeys.KeyedById := by decide
  have hsmall : ∀ id : UInt64, some 5 = some id → id.toNat < 2 ^ 63 := by
    rintro id hid
    obtain rfl := Option.some.inj hid
    decide
  obtain ⟨⟨rows, hrows, hascending, -, hexact⟩, hsql⟩ :=
    lookUp_exact sharedKeys hkeyed rfl Settings.standard.schema (some 5) (some "a@example.com")
      _ rfl
  exact ⟨hkeyed, rfl, _, rfl, ⟨rows, hrows, hascending, hexact hsmall⟩,
    hsql (by decide) (by decide) (by decide)⟩

/-- A customer whose account has the bits of the largest word. -/
def allBits : Customer := ⟨1, some (-1), none⟩

theorem lookUp_finds_wrapped :
    ∃ lookup, CustomerLookup.new? Settings.standard.schema (some 18446744073709551615) none =
        some lookup ∧
      (empty.insertCustomer allBits).KeyedById ∧
      allBits ∈ (empty.insertCustomer allBits).lookUp lookup ∧
      ¬ allBits.HasKey (some 18446744073709551615) none := by
  refine ⟨_, rfl, by decide, ?_, ?_⟩
  · rw [(lookUp_perm _ _).mem_iff]
    decide
  · rintro (⟨id, held, hid, hheld, hsame⟩ | ⟨text, htext, -⟩)
    · obtain rfl := Option.some.inj hid
      obtain rfl := Option.some.inj hheld
      exact absurd hsame (by decide)
    · cases htext

end MemoryStore
end SegmentRules.Commerce
