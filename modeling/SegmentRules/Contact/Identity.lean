import SegmentRules.Json.Decode
import SegmentRules.Sorted

/-! # Contacts and the identities of customers

A contact and a customer are the same person if they share a positive account id or an email that
is not empty. -/
namespace SegmentRules

structure Contact where
  id : UInt64
  account : Option Int64
  email : Option String
  deriving DecidableEq, Repr

/-- Account id and email of a customer, as a store returns them. -/
structure IdentityRow where
  account : Option Int64
  email : Option String
  deriving DecidableEq, Repr

def linkedAccount? (account : Option Int64) : Option UInt64 :=
  account.bind fun id => if 0 < id then some id.toUInt64 else none

def linkedEmail? (email : Option String) : Option String :=
  email.filter fun text => text ≠ ""

namespace Contact

def linkedAccount (contact : Contact) : Option UInt64 := linkedAccount? contact.account

def linkedEmail (contact : Contact) : Option String := linkedEmail? contact.email

def hasIdentity (contact : Contact) : Bool :=
  contact.linkedAccount.isSome || contact.linkedEmail.isSome

def toJson (contact : Contact) : Json :=
  .object [("id", .ofUInt64 contact.id), ("account_id", .ofOption .ofInt64 contact.account),
    ("email", .ofOption .string contact.email)]

def ofJson? (value : Json) : Option Contact := do
  let record ← value.record? ["id", "account_id", "email"]
  return ⟨← record.required? "id" Json.uint64?,
    ← record.withDefault? "account_id" none (Json.nullable? Json.int64?),
    ← record.withDefault? "email" none (Json.nullable? Json.string?)⟩

end Contact

/-- Account ids and emails, each ascending and without repetitions. -/
structure IdentitySet where
  accounts : List UInt64
  emails : List String
  deriving DecidableEq, Repr

namespace IdentitySet

def accountBefore (a b : UInt64) : Bool := a < b

/-- The identities of rows; ids that are not positive and empty emails identify nobody. -/
def ofRows (rows : List IdentityRow) : IdentitySet :=
  ⟨Sorted.ofList accountBefore (rows.filterMap fun row => linkedAccount? row.account),
    Sorted.ofList Sorted.textBefore (rows.filterMap fun row => linkedEmail? row.email)⟩

def isEmpty (set : IdentitySet) : Bool := set.accounts.isEmpty && set.emails.isEmpty

def contains (set : IdentitySet) (contact : Contact) : Bool :=
  contact.linkedAccount.any set.accounts.contains || contact.linkedEmail.any set.emails.contains

def toJson (set : IdentitySet) : Json :=
  .object [("account_ids", .array (set.accounts.map .ofUInt64)),
    ("emails", .strings set.emails)]

def ofJson? (value : Json) : Option IdentitySet := do
  let record ← value.record? ["account_ids", "emails"]
  let accounts ← record.required? "account_ids" (Json.list? Json.uint64?)
  let emails ← record.required? "emails" (Json.list? Json.string?)
  return ⟨Sorted.ofList accountBefore accounts, Sorted.ofList Sorted.textBefore emails⟩

end IdentitySet
end SegmentRules
