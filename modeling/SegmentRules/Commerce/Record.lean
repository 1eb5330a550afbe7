import SegmentRules.Window

/-! # Rows of the commerce data -/
namespace SegmentRules.Commerce

/-- A customer, linked to a contact by account or by email. -/
structure Customer where
  id : UInt64
  account : Option Int64
  email : Option String
  deriving DecidableEq, Repr

/-- A subscription to one price of a product. The status may be a text of its own. -/
structure Subscription where
  id : UInt64
  customer : UInt64
  product : UInt64
  price : Option UInt64
  status : String
  expiration : Option Timestamp
  deriving DecidableEq, Repr

namespace Customer

def toJson (customer : Customer) : Json :=
  .object [("id", .ofUInt64 customer.id), ("account_id", .ofOption .ofInt64 customer.account),
    ("email", .ofOption .string customer.email)]

def ofJson? (value : Json) : Option Customer := do
  let record ← value.record? ["id", "account_id", "email"]
  return ⟨← record.required? "id" Json.uint64?,
    ← record.optional? "account_id" (Json.nullable? Json.int64?),
    ← record.optional? "email" (Json.nullable? Json.string?)⟩

end Customer

namespace Subscription

def toJson (subscription : Subscription) : Json :=
  .object [("id", .ofUInt64 subscription.id), ("customer_id", .ofUInt64 subscription.customer),
    ("product_id", .ofUInt64 subscription.product),
    ("price_id", .ofOption .ofUInt64 subscription.price), ("status", .string subscription.status),
    ("expiration", .ofOption (fun t => .string t.text) subscription.expiration)]

def ofJson? (value : Json) : Option Subscription := do
  let record ← value.record?
    ["id", "customer_id", "product_id", "price_id", "status", "expiration"]
  return ⟨← record.required? "id" Json.uint64?, ← record.required? "customer_id" Json.uint64?,
    ← record.required? "product_id" Json.uint64?,
    ← record.optional? "price_id" (Json.nullable? Json.uint64?),
    ← record.required? "status" Json.string?,
    ← record.optional? "expiration" (Json.nullable? Window.timestampOfJson?)⟩

end Subscription
end SegmentRules.Commerce
