import SegmentRules.Commerce.Store

/-! # Recorded questions

A store that writes down what it is asked and what it answers. It answers like the store it stands
for, so a run over it tells which questions any run asks. -/
namespace SegmentRules.Commerce

inductive Call
  | identities (query : MembershipQuery) (answer : Except StoreError (List IdentityRow))
  | customers (lookup : CustomerLookup) (answer : Except StoreError (List Customer))
  | hasSubscription (query : CustomerSubscriptionQuery) (answer : Except StoreError Bool)

def Call.answered? : Call → Option (MembershipQuery × List IdentityRow)
  | .identities query (.ok rows) => some (query, rows)
  | _ => none

/-- The same question, where both times answered, got the same rows. -/
def Call.Agree (a b : List Call) : Prop :=
  ∀ one ∈ a.filterMap answered?, ∀ other ∈ b.filterMap answered?, one.1 = other.1 → one.2 = other.2

instance (a b : List Call) : Decidable (Call.Agree a b) :=
  inferInstanceAs (Decidable (∀ one ∈ _, _))

theorem Call.Agree.mono {a b c d : List Call} (h : Agree b d) (ha : a ⊆ b) (hc : c ⊆ d) :
    Agree a c :=
  fun one hone other hother =>
    h one (List.filterMap_subset _ ha hone) other (List.filterMap_subset _ hc hother)

/-- A store and the questions put to it so far, the first one first. -/
structure Recorder (σ : Type) where
  store : σ
  calls : List Call

namespace Recorder

def new (store : σ) : Recorder σ := ⟨store, []⟩

def after (calls : List Call) (recorder : Recorder σ) : Recorder σ :=
  ⟨recorder.store, calls ++ recorder.calls⟩

theorem after_new (calls : List Call) (store : σ) : after calls (new store) = ⟨store, calls⟩ := by
  simp [after, new]

instance [Store σ] : Store (Recorder σ) where
  identities query recorder :=
    let (answer, store) := Store.identities query recorder.store
    (answer, ⟨store, recorder.calls ++ [.identities query answer]⟩)
  customers lookup recorder :=
    let (answer, store) := Store.customers lookup recorder.store
    (answer, ⟨store, recorder.calls ++ [.customers lookup answer]⟩)
  hasSubscription query recorder :=
    let (answer, store) := Store.hasSubscription query recorder.store
    (answer, ⟨store, recorder.calls ++ [.hasSubscription query answer]⟩)

end Recorder

/-- Stores looked at as stores of another kind: they answer the same, and go on alike. -/
structure Store.IsView {τ σ : Type} [Store τ] [Store σ] (view : τ → σ) : Prop where
  identities : ∀ query store, Store.identities query (view store) =
    Prod.map id view (Store.identities query store)
  customers : ∀ lookup store, Store.customers lookup (view store) =
    Prod.map id view (Store.customers lookup store)
  hasSubscription : ∀ query store, Store.hasSubscription query (view store) =
    Prod.map id view (Store.hasSubscription query store)

namespace Recorder

variable {σ : Type} [Store σ]

theorem isView_store : Store.IsView (store : Recorder σ → σ) where
  identities _ _ := rfl
  customers _ _ := rfl
  hasSubscription _ _ := rfl

theorem isView_after (calls : List Call) :
    Store.IsView (after calls : Recorder σ → Recorder σ) where
  identities _ _ := by simp [Store.identities, after]
  customers _ _ := by simp [Store.customers, after]
  hasSubscription _ _ := by simp [Store.hasSubscription, after]

end Recorder
end SegmentRules.Commerce
