import SegmentRules.Proofs.Commerce.MemoryStore
import SegmentRules.Proofs.Contact.Union

/-! # Order of rows

A store in memory keeps its rows in the order they came in. With distinct customer ids its answers
do not show that order, once repeated identities are dropped. -/
namespace SegmentRules

namespace Commerce.MemoryStore

structure SameRows (a b : MemoryStore) : Prop where
  customers : a.customers.Perm b.customers
  subscriptions : a.subscriptions.Perm b.subscriptions

/-- Two stores answer alike, up to the order of owners and repetitions among them. -/
structure Alike (a b : MemoryStore) : Prop where
  owners : ∀ predicate, IdentitySet.ofRows (a.owners predicate) = .ofRows (b.owners predicate)
  lookUp : ∀ lookup, a.lookUp lookup = b.lookUp lookup
  owns : ∀ customer predicate, a.owns customer predicate = b.owns customer predicate

variable {a b : MemoryStore}

theorem SameRows.keyedById (same : SameRows a b) (keyed : a.KeyedById) : b.KeyedById :=
  (same.customers.map Customer.id).nodup_iff.mp keyed

theorem SameRows.owns (same : SameRows a b) (customer : UInt64) (predicate : Predicate) :
    a.owns customer predicate = b.owns customer predicate :=
  same.subscriptions.any_eq

theorem SameRows.owners (same : SameRows a b) (keyed : a.KeyedById) (predicate : Predicate) :
    IdentitySet.ofRows (a.owners predicate) = .ofRows (b.owners predicate) := by
  apply IdentitySet.ofRows_congr
  intro row
  simp only [mem_owners keyed, mem_owners (same.keyedById keyed), same.customers.mem_iff,
    same.owns]

/-- Customers with distinct ids can be sorted by id in one way only. -/
theorem SameRows.lookUp (same : SameRows a b) (keyed : a.KeyedById) (lookup : CustomerLookup) :
    a.lookUp lookup = b.lookUp lookup := by
  have hperm : (a.lookUp lookup).Perm (b.lookUp lookup) :=
    (a.lookUp_perm lookup).trans
      ((same.customers.filter (isLookedUp lookup)).trans (b.lookUp_perm lookup).symm)
  have hmem : ∀ x ∈ a.lookUp lookup, x ∈ a.customers := by
    intro x hx
    exact (List.mem_filter.mp ((a.lookUp_perm lookup).mem_iff.mp hx)).1
  apply hperm.eq_of_pairwise _ (a.lookUp_sorted lookup) (b.lookUp_sorted lookup)
  intro x y hx hy hxy hyx
  have hid : x.id = y.id := UInt64.le_antisymm hxy hyx
  exact List.inj_on_of_nodup_map keyed (hmem x hx) (hmem y (hperm.mem_iff.mpr hy)) hid

theorem SameRows.alike (same : SameRows a b) (keyed : a.KeyedById) : Alike a b :=
  ⟨same.owners keyed, same.lookUp keyed, same.owns⟩

/-- Three customers with subscriptions; two of them share an account and two an email. -/
def sharedKeys : MemoryStore where
  customers :=
    [⟨9, some 5, some "a@example.com"⟩, ⟨4, some 5, none⟩, ⟨6, none, some "a@example.com"⟩]
  subscriptions := [⟨1, 9, 7, none, "active", none⟩, ⟨2, 6, 7, some 1, "active", some ⟨259200, 0⟩⟩,
    ⟨3, 4, 7, none, "expired", none⟩]
  calls := 0
  failure := none

def reversed (store : MemoryStore) : MemoryStore :=
  { store with customers := store.customers.reverse, subscriptions := store.subscriptions.reverse }

end Commerce.MemoryStore
end SegmentRules
