import Mathlib.Data.List.Nodup
import SegmentRules.Commerce.Store
import SegmentRules.Proofs.Contact.Identity

/-! # Answers of a store in memory

With distinct customer ids the join of subscriptions and customers is plain ownership. -/
namespace SegmentRules.Commerce.MemoryStore

variable {store : MemoryStore} {predicate : Predicate}

def KeyedById (store : MemoryStore) : Prop := (store.customers.map (·.id)).Nodup

instance (store : MemoryStore) : Decidable store.KeyedById :=
  inferInstanceAs (Decidable (List.Nodup _))

theorem customer?_eq_some (h : store.KeyedById) {id : UInt64} {customer : Customer} :
    store.customer? id = some customer ↔ customer ∈ store.customers ∧ customer.id = id := by
  constructor
  · intro hfind
    exact ⟨List.mem_of_find?_eq_some hfind, by simpa using List.find?_some hfind⟩
  · rintro ⟨hmem, hid⟩
    obtain ⟨found, hfound⟩ : ∃ found, store.customer? id = some found := by
      rw [← Option.isSome_iff_exists, customer?, List.find?_isSome]
      exact ⟨customer, hmem, by simpa using hid⟩
    have hsame : found.id = customer.id := by
      have := List.find?_some hfound
      simp_all
    rw [hfound, List.inj_on_of_nodup_map h (List.mem_of_find?_eq_some hfound) hmem hsame]

theorem owns_iff {customer : UInt64} :
    store.owns customer predicate = true ↔
      ∃ row ∈ store.subscriptions, row.customer = customer ∧ predicate.accepts row = true := by
  simp [owns]

theorem mem_owners (h : store.KeyedById) {row : IdentityRow} :
    row ∈ store.owners predicate ↔
      ∃ customer ∈ store.customers, store.owns customer.id predicate = true ∧
        row = ⟨customer.account, customer.email⟩ := by
  simp only [owners, List.mem_filterMap, List.mem_filter, Option.map_eq_some_iff,
    customer?_eq_some h, owns_iff]
  constructor
  · rintro ⟨subscription, ⟨hsub, haccepts⟩, customer, ⟨hmem, hid⟩, rfl⟩
    exact ⟨customer, hmem, ⟨subscription, hsub, hid.symm, haccepts⟩, rfl⟩
  · rintro ⟨customer, hmem, ⟨subscription, hsub, hid, haccepts⟩, rfl⟩
    exact ⟨subscription, ⟨hsub, haccepts⟩, customer, ⟨hmem, hid.symm⟩, rfl⟩

theorem lookUp_perm (store : MemoryStore) (lookup : CustomerLookup) :
    (store.lookUp lookup).Perm (store.customers.filter (isLookedUp lookup)) :=
  List.mergeSort_perm _ _

theorem lookUp_sorted (store : MemoryStore) (lookup : CustomerLookup) :
    (store.lookUp lookup).Pairwise fun a b => a.id ≤ b.id := by
  have htrans : ∀ x y z : Customer, idLe x y = true → idLe y z = true → idLe x z = true := by
    intro x y z hxy hyz
    exact decide_eq_true (UInt64.le_trans (of_decide_eq_true hxy) (of_decide_eq_true hyz))
  have htotal : ∀ x y : Customer, (idLe x y || idLe y x) = true := by
    intro x y
    simpa [idLe] using UInt64.le_total x.id y.id
  exact (List.pairwise_mergeSort htrans htotal _).imp of_decide_eq_true

theorem mem_lookUp {contact : Contact} {lookup : CustomerLookup}
    (haccount : lookup.account = contact.linkedAccount)
    (hemail : lookup.email = contact.linkedEmail) {customer : Customer} :
    customer ∈ store.lookUp lookup ↔
      customer ∈ store.customers ∧ contact.Shares customer.account customer.email := by
  have hbyAccount : lookup.account.any (fun id => customer.account == some id.toInt64) = true ↔
      IsAccount customer.account ∧ contact.account = customer.account := by
    rw [haccount, Contact.linkedAccount, Option.any_eq_true]
    constructor
    · rintro ⟨word, hword, heq⟩
      obtain ⟨id, hid, positive, rfl⟩ := linkedAccount?_eq_some.mp hword
      have hcustomer : customer.account = some id := by simpa using heq
      exact ⟨⟨id, hcustomer, positive⟩, hid.trans hcustomer.symm⟩
    · rintro ⟨⟨id, hcustomer, positive⟩, hid⟩
      exact ⟨id.toUInt64, linkedAccount?_eq_some.mpr ⟨id, hid.trans hcustomer, positive, rfl⟩,
        by simp [hcustomer]⟩
  have hbyEmail : lookup.email.any (fun text => customer.email == some text) = true ↔
      IsEmail customer.email ∧ contact.email = customer.email := by
    rw [hemail, Contact.linkedEmail, Option.any_eq_true]
    constructor
    · rintro ⟨text, htext, heq⟩
      obtain ⟨hcontact, hne⟩ := linkedEmail?_eq_some.mp htext
      have hcustomer : customer.email = some text := by simpa using heq
      exact ⟨⟨text, hcustomer, hne⟩, hcontact.trans hcustomer.symm⟩
    · rintro ⟨⟨text, hcustomer, hne⟩, hcontact⟩
      exact ⟨text, linkedEmail?_eq_some.mpr ⟨hcontact.trans hcustomer, hne⟩, by simp [hcustomer]⟩
  rw [(lookUp_perm store lookup).mem_iff, List.mem_filter, isLookedUp, Bool.or_eq_true, hbyAccount,
    hbyEmail, Contact.Shares]

def asked (store : MemoryStore) (count : Nat) : MemoryStore :=
  { store with calls := store.calls + count }

@[simp] theorem asked_zero : store.asked 0 = store := rfl

@[simp] theorem asked_asked (first second : Nat) :
    (store.asked first).asked second = store.asked (first + second) := by
  simp [asked, Nat.add_assoc]

theorem answer_of_sound {α : Type} (sound : store.failure = none) (result : α) :
    store.answer result = (.ok result, store.asked 1) := by
  simp [answer, asked, sound]

end SegmentRules.Commerce.MemoryStore
