import SegmentRules.Proofs.Contact.Identity

/-! # Identities of many rows

The set of rows is the union of what each row names, so neither the order of rows nor repetitions
of them show in it. -/
namespace SegmentRules

instance : IsStrictTotalOrder UInt64 fun a b => IdentitySet.accountBefore a b = true where
  irrefl a h := UInt64.lt_irrefl a (of_decide_eq_true h)
  trans _ _ _ h h' := decide_eq_true (UInt64.lt_trans (of_decide_eq_true h) (of_decide_eq_true h'))
  trichotomous _ _ h h' := UInt64.le_antisymm
    (UInt64.not_lt.mp fun hlt => h' (decide_eq_true hlt))
    (UInt64.not_lt.mp fun hlt => h (decide_eq_true hlt))

namespace IdentitySet

/-- The set has the positive account ids and the emails of the rows, and it has nothing else. -/
structure Collects (rows : List IdentityRow) (set : IdentitySet) : Prop where
  accounts : ∀ word, word ∈ set.accounts ↔
    ∃ row ∈ rows, ∃ id, row.account = some id ∧ 0 < id ∧ (word.toNat : Int) = id.toInt
  emails : ∀ text, text ∈ set.emails ↔ text ≠ "" ∧ ∃ row ∈ rows, row.email = some text

/-- Identities that can be shared, each listed once and in ascending order. -/
structure IsNormal (set : IdentitySet) : Prop where
  positive : ∀ word ∈ set.accounts, 0 < word
  filled : ∀ text ∈ set.emails, text ≠ ""
  accounts : set.accounts.Pairwise (· < ·)
  emails : set.emails.Pairwise (· < ·)

structure Joins (a b both : IdentitySet) : Prop where
  accounts : ∀ word, word ∈ both.accounts ↔ word ∈ a.accounts ∨ word ∈ b.accounts
  emails : ∀ text, text ∈ both.emails ↔ text ∈ a.emails ∨ text ∈ b.emails

variable {a b rows : List IdentityRow}

theorem ofRows_collects (rows : List IdentityRow) : Collects rows (ofRows rows) := by
  constructor
  · intro word
    simp only [mem_accounts_ofRows, linkedAccount?_eq_some]
    constructor
    · rintro ⟨row, hrow, id, haccount, positive, rfl⟩
      exact ⟨row, hrow, id, haccount, positive, toNat_toUInt64 positive⟩
    · rintro ⟨row, hrow, id, haccount, positive, hword⟩
      refine ⟨row, hrow, id, haccount, positive, UInt64.toNat_inj.mp ?_⟩
      have hsame := toNat_toUInt64 positive
      omega
  · intro text
    simp only [mem_emails_ofRows, linkedEmail?_eq_some]
    constructor
    · rintro ⟨row, hrow, hemail, hfilled⟩
      exact ⟨hfilled, row, hrow, hemail⟩
    · rintro ⟨hfilled, row, hrow, hemail⟩
      exact ⟨row, hrow, hemail, hfilled⟩

theorem ofRows_isNormal (rows : List IdentityRow) : (ofRows rows).IsNormal := by
  obtain ⟨haccounts, hemails⟩ := ofRows_collects rows
  have hascending : Sorted.Ascending accountBefore (ofRows rows).accounts :=
    Sorted.ofList_ascending _
  have hascending' : Sorted.Ascending Sorted.textBefore (ofRows rows).emails :=
    Sorted.ofList_ascending _
  refine ⟨?_, ?_, ?_, ?_⟩
  · intro word hword
    obtain ⟨_, _, id, _, positive, hvalue⟩ := (haccounts word).mp hword
    have hpositive := Int64.lt_iff_toInt_lt.mp positive
    rw [← hvalue] at hpositive
    exact UInt64.lt_iff_toNat_lt.mpr (Int.ofNat_lt.mp hpositive)
  · intro text htext
    exact ((hemails text).mp htext).1
  · exact hascending.imp fun h => of_decide_eq_true h
  · exact hascending'.imp fun h => of_decide_eq_true h

theorem isEmpty_ofRows : (ofRows rows).isEmpty = true ↔
    ∀ row ∈ rows, ¬ IsAccount row.account ∧ ¬ IsEmail row.email := by
  rw [isEmpty, Bool.and_eq_true, List.isEmpty_iff, List.isEmpty_iff, accounts_ofRows_eq_nil,
    emails_ofRows_eq_nil]
  exact forall₂_and.symm

theorem ofRows_joins (a b : List IdentityRow) : Joins (ofRows a) (ofRows b) (ofRows (a ++ b)) := by
  constructor
  · intro word
    simp only [mem_accounts_ofRows, List.mem_append, or_and_right, exists_or]
  · intro text
    simp only [mem_emails_ofRows, List.mem_append, or_and_right, exists_or]

theorem ofRows_congr (same : ∀ row, row ∈ a ↔ row ∈ b) : ofRows a = ofRows b := by
  have haccounts : (ofRows a).accounts = (ofRows b).accounts :=
    Sorted.ofList_congr fun word => by simp [same]
  have hemails : (ofRows a).emails = (ofRows b).emails :=
    Sorted.ofList_congr fun text => by simp [same]
  calc ofRows a = ⟨(ofRows a).accounts, (ofRows a).emails⟩ := rfl
    _ = ofRows b := by rw [haccounts, hemails]

/-- The set of rows has the positive account ids and the emails in them, ascending and each once. A
contact is in it by a key that it shares with a row, and it is empty if no row has a key that
identifies someone. The rows of two lists together have the identities of both lists, and lists of
the same rows have the same set, in whatever order and however often the rows stand in them. -/
theorem normalised_union (rows : List IdentityRow) :
    Collects rows (ofRows rows) ∧ (ofRows rows).IsNormal ∧
    (∀ contact : Contact, (ofRows rows).contains contact = true ↔
      ∃ row ∈ rows, contact.Shares row.account row.email) ∧
    ((ofRows rows).isEmpty = true ↔
      ∀ row ∈ rows, ¬ IsAccount row.account ∧ ¬ IsEmail row.email) ∧
    (∀ more, Joins (ofRows rows) (ofRows more) (ofRows (rows ++ more))) ∧
    ∀ other, (∀ row, row ∈ rows ↔ row ∈ other) → ofRows rows = ofRows other := by
  refine ⟨ofRows_collects rows, ofRows_isNormal rows, ?_, isEmpty_ofRows, ofRows_joins rows, ?_⟩
  · intro contact
    exact contains_ofRows
  · intro other same
    exact ofRows_congr same

/-- Two customers, one of them twice, among keys that identify nobody. -/
def repeatedRows : List IdentityRow :=
  [⟨some 7, some "b@example.com"⟩, ⟨some 0, some ""⟩, ⟨some 7, some "b@example.com"⟩,
    ⟨some (-4), none⟩, ⟨none, some "a@example.com"⟩]

theorem normalised_union_of_repeated :
    ofRows repeatedRows = ⟨[7], ["a@example.com", "b@example.com"]⟩ ∧
    ofRows repeatedRows = ofRows repeatedRows.eraseDups.reverse ∧
    (ofRows repeatedRows).contains ⟨1, some (-4), some "a@example.com"⟩ = true ∧
    (ofRows repeatedRows).contains ⟨2, some (-4), some ""⟩ = false := by
  obtain ⟨-, -, hcontains, -, -, hsame⟩ := normalised_union repeatedRows
  refine ⟨by decide, hsame _ fun row => by simp, ?_, ?_⟩
  · exact (hcontains _).mpr
      ⟨⟨none, some "a@example.com"⟩, by decide, .inr ⟨⟨_, rfl, by decide⟩, rfl⟩⟩
  · decide

end IdentitySet
end SegmentRules
