import SegmentRules.Commerce.Store

/-! # Membership of one contact -/
namespace SegmentRules

open Commerce (Customer Store)

/-- Whether a contact is a member, and why that may be doubted. -/
structure Membership where
  isMember : Bool
  ambiguity : Option RuleError
  deriving DecidableEq, Repr

namespace Membership

def none : Membership := ⟨false, .none⟩

def hasAccount (account : UInt64) (customer : Customer) : Bool :=
  customer.account.any fun id => id.toInt == (account.toNat : Int)

/-- Equality of texts that takes small and capital letters of ASCII as equal. -/
def sameIgnoringCase (a b : String) : Bool := a.toList.map Char.toLower == b.toList.map Char.toLower

/-- Another customer who has the contact's email. -/
def rival? (picked : Customer) (email : Option String) (customers : List Customer) :
    Option Customer :=
  email.bind fun email => customers.find? fun customer =>
    customer.id != picked.id && customer.email.any (sameIgnoringCase · email)

/-- The customer a contact stands for: the first one with its account, else the first one. If an
account decides while the email belongs to somebody else, the match is ambiguous. -/
def pick? (contact : Contact) (customers : List Customer) :
    Option (UInt64 × Option RuleError) :=
  match contact.linkedAccount.bind fun account => customers.find? (hasAccount account) with
  | some picked =>
    some (picked.id, (rival? picked contact.linkedEmail customers).map fun rival =>
      .ambiguousAccount picked.id rival.id)
  | .none => customers.head?.map fun customer => (customer.id, .none)

/-- Find the contact's customer and ask for a subscription that counts. A contact without identity
costs no question, and one without customer no second one. -/
def check [Store σ] (schema : Schema) (contact : Contact) (predicate : Commerce.Predicate)
    (store : σ) : Except RuleError Membership × σ :=
  match Commerce.CustomerLookup.new? schema contact.linkedAccount contact.linkedEmail with
  | .none => (.ok none, store)
  | some lookup =>
    match Store.customers lookup store with
    | (.error error, store) => (.error (.lookupFailed error), store)
    | (.ok customers, store) =>
      match pick? contact customers with
      | .none => (.ok none, store)
      | some (id, ambiguity) =>
        match Store.hasSubscription (.new schema id predicate) store with
        | (.error error, store) => (.error (.lookupFailed error), store)
        | (.ok isMember, store) => (.ok ⟨isMember, ambiguity⟩, store)

end Membership
end SegmentRules
