import SegmentRules.Json.Decode

/-! # Tables and columns of the commerce data -/
namespace SegmentRules

open Document (FieldName Record)

structure SubscriptionColumns where
  id : String
  customerId : String
  productId : String
  priceId : String
  status : String
  expiration : String
  deriving DecidableEq, Repr

structure IdentityColumns where
  id : String
  accountId : String
  email : String
  deriving DecidableEq, Repr

namespace SubscriptionColumns

def standard : SubscriptionColumns :=
  ⟨"id", "customer_id", "product_id", "price_id", "status", "expiration"⟩

def entries (columns : SubscriptionColumns) : List (String × String) :=
  [("id", columns.id), ("customer_id", columns.customerId), ("product_id", columns.productId),
   ("price_id", columns.priceId), ("status", columns.status), ("expiration", columns.expiration)]

def fields : List FieldName := standard.entries.map fun (name, _) => name

/-- Columns from a record; the standard ones where it has none. -/
def ofRecord? (text? : α → Option String) (record : Record α) : Option SubscriptionColumns := do
  return ⟨← record.withDefault? "id" standard.id text?,
    ← record.withDefault? "customer_id" standard.customerId text?,
    ← record.withDefault? "product_id" standard.productId text?,
    ← record.withDefault? "price_id" standard.priceId text?,
    ← record.withDefault? "status" standard.status text?,
    ← record.withDefault? "expiration" standard.expiration text?⟩

def ofJson? (value : Json) : Option SubscriptionColumns := do
  ofRecord? Json.string? (← value.record? fields)

end SubscriptionColumns

namespace IdentityColumns

def standard : IdentityColumns := ⟨"id", "user_id", "email"⟩

def entries (columns : IdentityColumns) : List (String × String) :=
  [("id", columns.id), ("account_id", columns.accountId), ("email", columns.email)]

def fields : List FieldName := standard.entries.map fun (name, _) => name

def ofRecord? (text? : α → Option String) (record : Record α) : Option IdentityColumns := do
  return ⟨← record.withDefault? "id" standard.id text?,
    ← record.withDefault? "account_id" standard.accountId text?,
    ← record.withDefault? "email" standard.email text?⟩

def ofJson? (value : Json) : Option IdentityColumns := do
  ofRecord? Json.string? (← value.record? fields)

end IdentityColumns

/-- Full table names and columns, as queries use them. -/
structure Schema where
  subscriptionsTable : String
  customersTable : String
  subscription : SubscriptionColumns
  customer : IdentityColumns
  contact : IdentityColumns
  deriving DecidableEq, Repr

end SegmentRules
