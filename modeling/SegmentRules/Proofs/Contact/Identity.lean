import SegmentRules.Contact.Identity
import SegmentRules.Proofs.Sorted
import SegmentRules.Sql.Value

/-! # Shared identities

A positive account id is the same number with and without sign, so sets of words and signed
columns compare as integers do. -/
namespace SegmentRules

/-- The key is an account id that identifies someone. -/
def IsAccount (account : Option Int64) : Prop := ∃ id, account = some id ∧ 0 < id

def IsEmail (email : Option String) : Prop := ∃ text, email = some text ∧ text ≠ ""

/-- A contact is the person with these keys: one key identifies both of them. -/
def Contact.Shares (contact : Contact) (account : Option Int64) (email : Option String) : Prop :=
  (IsAccount account ∧ contact.account = account) ∨ (IsEmail email ∧ contact.email = email)

theorem linkedAccount?_eq_some {account : Option Int64} {word : UInt64} :
    linkedAccount? account = some word ↔ ∃ id, account = some id ∧ 0 < id ∧ id.toUInt64 = word := by
  cases account with
  | none => simp [linkedAccount?]
  | some id => simp [linkedAccount?]

theorem linkedEmail?_eq_some {email : Option String} {text : String} :
    linkedEmail? email = some text ↔ email = some text ∧ text ≠ "" := by
  simp [linkedEmail?, Option.filter_eq_some_iff]

theorem linkedAccount?_isSome {account : Option Int64} :
    (linkedAccount? account).isSome = true ↔ IsAccount account := by
  simp only [Option.isSome_iff_exists, linkedAccount?_eq_some]
  constructor
  · rintro ⟨_, id, h, positive, _⟩
    exact ⟨id, h, positive⟩
  · rintro ⟨id, h, positive⟩
    exact ⟨_, id, h, positive, rfl⟩

theorem linkedEmail?_isSome {email : Option String} :
    (linkedEmail? email).isSome = true ↔ IsEmail email := by
  simp [Option.isSome_iff_exists, linkedEmail?_eq_some, IsEmail]

theorem toNat_toUInt64 {id : Int64} (positive : 0 < id) : (id.toUInt64.toNat : Int) = id.toInt := by
  have hpositive : 0 < id.toInt := Int64.lt_iff_toInt_lt.mp positive
  rw [Int64.toNat_toUInt64_of_le (Int64.le_of_lt positive), Int64.toNatClampNeg]
  omega

theorem toInt_eq_toUInt64_iff {x id : Int64} (positive : 0 < id) :
    x.toInt = (id.toUInt64.toNat : Int) ↔ x = id := by
  rw [toNat_toUInt64 positive, Int64.toInt_inj]

theorem same_account_word {x : Int64} {account : Option Int64} {word : UInt64}
    (h : linkedAccount? account = some word) :
    (Sql.Value.int x).same (.uint word) = true ↔ some x = account := by
  obtain ⟨id, rfl, positive, rfl⟩ := linkedAccount?_eq_some.mp h
  simp [Sql.Value.same, toInt_eq_toUInt64_iff positive]

theorem linkedAccount?_inj {a b : Option Int64} {word : UInt64} (ha : linkedAccount? a = some word)
    (hb : linkedAccount? b = some word) : a = b := by
  obtain ⟨x, rfl, hx, rfl⟩ := linkedAccount?_eq_some.mp ha
  obtain ⟨y, rfl, hy, hsame⟩ := linkedAccount?_eq_some.mp hb
  have hvalue := (toInt_eq_toUInt64_iff hx).mpr (rfl : x = x)
  rw [← hsame] at hvalue
  rw [(toInt_eq_toUInt64_iff hy).mp hvalue]

namespace IdentitySet

variable {rows : List IdentityRow}

theorem mem_accounts_ofRows {word : UInt64} :
    word ∈ (ofRows rows).accounts ↔ ∃ row ∈ rows, linkedAccount? row.account = some word := by
  simp [ofRows, Sorted.mem_ofList]

theorem mem_emails_ofRows {text : String} :
    text ∈ (ofRows rows).emails ↔ ∃ row ∈ rows, linkedEmail? row.email = some text := by
  simp [ofRows, Sorted.mem_ofList]

theorem accounts_ofRows_eq_nil :
    (ofRows rows).accounts = [] ↔ ∀ row ∈ rows, ¬ IsAccount row.account := by
  simp [ofRows, Sorted.ofList_eq_nil, ← linkedAccount?_isSome]

theorem emails_ofRows_eq_nil :
    (ofRows rows).emails = [] ↔ ∀ row ∈ rows, ¬ IsEmail row.email := by
  simp [ofRows, Sorted.ofList_eq_nil, ← linkedEmail?_isSome]

theorem any_same_accounts {x : Int64} :
    ((ofRows rows).accounts.map Sql.Value.uint).any (Sql.Value.int x).same = true ↔
      ∃ row ∈ rows, IsAccount row.account ∧ row.account = some x := by
  simp only [List.any_map, List.any_eq_true, mem_accounts_ofRows, Function.comp_apply]
  constructor
  · rintro ⟨word, ⟨row, hrow, hword⟩, hsame⟩
    exact ⟨row, hrow, linkedAccount?_isSome.mp (by simp [hword]),
      ((same_account_word hword).mp hsame).symm⟩
  · rintro ⟨row, hrow, haccount, hx⟩
    obtain ⟨word, hword⟩ := Option.isSome_iff_exists.mp (linkedAccount?_isSome.mpr haccount)
    exact ⟨word, ⟨row, hrow, hword⟩, (same_account_word hword).mpr hx.symm⟩

theorem any_same_emails {x : String} :
    ((ofRows rows).emails.map Sql.Value.text).any (Sql.Value.text x).same = true ↔
      ∃ row ∈ rows, IsEmail row.email ∧ row.email = some x := by
  simp only [List.any_map, List.any_eq_true, mem_emails_ofRows, Function.comp_apply,
    linkedEmail?_eq_some]
  constructor
  · rintro ⟨text, ⟨row, hrow, hemail, hne⟩, hsame⟩
    have hx : x = text := by simpa [Sql.Value.same] using hsame
    exact ⟨row, hrow, ⟨text, hemail, hne⟩, by rw [hemail, hx]⟩
  · rintro ⟨row, hrow, ⟨text, hemail, hne⟩, hx⟩
    have htext : text = x := Option.some.inj (hemail.symm.trans hx)
    exact ⟨x, ⟨row, hrow, hx, htext ▸ hne⟩, by simp [Sql.Value.same]⟩

theorem contains_ofRows {contact : Contact} : (ofRows rows).contains contact = true ↔
    ∃ row ∈ rows, contact.Shares row.account row.email := by
  simp only [contains, Bool.or_eq_true, Option.any_eq_true, List.contains_iff_mem,
    mem_accounts_ofRows, mem_emails_ofRows, Contact.linkedAccount, Contact.linkedEmail]
  constructor
  · rintro (⟨word, hcontact, row, hrow, hword⟩ | ⟨text, hcontact, row, hrow, htext⟩)
    · refine ⟨row, hrow, .inl ⟨linkedAccount?_isSome.mp (by simp [hword]), ?_⟩⟩
      exact linkedAccount?_inj hcontact hword
    · refine ⟨row, hrow, .inr ⟨linkedEmail?_isSome.mp (by simp [htext]), ?_⟩⟩
      rw [(linkedEmail?_eq_some.mp hcontact).1, (linkedEmail?_eq_some.mp htext).1]
  · rintro ⟨row, hrow, ⟨haccount, hsame⟩ | ⟨hemail, hsame⟩⟩
    · obtain ⟨word, hword⟩ := Option.isSome_iff_exists.mp (linkedAccount?_isSome.mpr haccount)
      exact .inl ⟨word, hsame ▸ hword, row, hrow, hword⟩
    · obtain ⟨text, htext⟩ := Option.isSome_iff_exists.mp (linkedEmail?_isSome.mpr hemail)
      exact .inr ⟨text, hsame ▸ htext, row, hrow, htext⟩

end IdentitySet
end SegmentRules
