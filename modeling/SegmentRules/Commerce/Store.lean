import SegmentRules.Commerce.Query
import SegmentRules.Contact.Identity

/-! # Stores of commerce data -/
namespace SegmentRules.Commerce

/-- A store answers questions, or fails to. Asking may change its state. -/
class Store (σ : Type) where
  /-- One row for each subscription that counts. -/
  identities : MembershipQuery → σ → Except StoreError (List IdentityRow) × σ
  /-- The customers with the account or the email. -/
  customers : CustomerLookup → σ → Except StoreError (List Customer) × σ
  /-- Whether one customer owns a subscription that counts. -/
  hasSubscription : CustomerSubscriptionQuery → σ → Except StoreError Bool × σ

/-- Rows in memory, the number of questions asked so far, and the error all questions are answered
with as long as there is one. -/
structure MemoryStore where
  customers : List Customer
  subscriptions : List Subscription
  calls : Nat
  failure : Option StoreError
  deriving DecidableEq, Repr

namespace MemoryStore

def empty : MemoryStore := ⟨[], [], 0, none⟩

def insertCustomer (store : MemoryStore) (customer : Customer) : MemoryStore :=
  { store with customers := store.customers ++ [customer] }

def insertSubscription (store : MemoryStore) (subscription : Subscription) : MemoryStore :=
  { store with subscriptions := store.subscriptions ++ [subscription] }

def failWith (store : MemoryStore) (error : StoreError) : MemoryStore :=
  { store with failure := some error }

def recover (store : MemoryStore) : MemoryStore := { store with failure := none }

def answer (store : MemoryStore) (result : α) : Except StoreError α × MemoryStore :=
  (match store.failure with
    | some error => .error error
    | none => .ok result,
   { store with calls := store.calls + 1 })

def customer? (store : MemoryStore) (id : UInt64) : Option Customer :=
  store.customers.find? (·.id == id)

/-- The owners of the subscriptions that count, in the order of the subscriptions. Subscriptions
without a customer have no owner. -/
def owners (store : MemoryStore) (predicate : Predicate) : List IdentityRow :=
  (store.subscriptions.filter predicate.accepts).filterMap fun subscription =>
    (store.customer? subscription.customer).map fun customer =>
      ⟨customer.account, customer.email⟩

/-- Whether a customer has the account or the email. Accounts are compared as words of 64 bits. -/
def isLookedUp (lookup : CustomerLookup) (customer : Customer) : Bool :=
  lookup.account.any (fun id => customer.account == some id.toInt64) ||
    lookup.email.any fun email => customer.email == some email

def idLe (a b : Customer) : Bool := a.id ≤ b.id

def lookUp (store : MemoryStore) (lookup : CustomerLookup) : List Customer :=
  (store.customers.filter (isLookedUp lookup)).mergeSort idLe

def owns (store : MemoryStore) (customer : UInt64) (predicate : Predicate) : Bool :=
  store.subscriptions.any fun subscription =>
    subscription.customer == customer && predicate.accepts subscription

instance : Store MemoryStore where
  identities query store := store.answer (store.owners query.predicate)
  customers lookup store := store.answer (store.lookUp lookup)
  hasSubscription query store := store.answer (store.owns query.customer query.predicate)

end MemoryStore

/-- A store that knows its answers: who is found, and which customers are members. -/
structure FixedStore where
  found : List Customer
  members : List UInt64

instance : Store FixedStore where
  identities _ store := (.ok [], store)
  customers _ store := (.ok store.found, store)
  hasSubscription query store := (.ok (store.members.contains query.customer), store)

end SegmentRules.Commerce
