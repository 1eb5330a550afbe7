import SegmentRules.Commerce.Predicate

/-! # Questions to the commerce data

Each holds its meaning, for stores that answer it themselves, and its SQL. -/
namespace SegmentRules.Commerce

def subscriptionAlias : String := "sub"
def customerAlias : String := "cust"

/-- Who owns a subscription that counts? -/
structure MembershipQuery where
  predicate : Predicate
  fragment : Sql.Fragment
  deriving DecidableEq, Repr

def MembershipQuery.new (schema : Schema) (predicate : Predicate) : MembershipQuery :=
  let condition := predicate.render subscriptionAlias schema.subscription
  let customer (column : String) := customerAlias ++ "." ++ column
  ⟨predicate,
    "SELECT " ++ customer schema.customer.accountId ++ ", " ++ customer schema.customer.email ++
      " FROM " ++ schema.subscriptionsTable ++ " AS " ++ subscriptionAlias ++
      " INNER JOIN " ++ schema.customersTable ++ " AS " ++ customerAlias ++
      " ON " ++ customer schema.customer.id ++
      " = " ++ subscriptionAlias ++ "." ++ schema.subscription.customerId ++
      " WHERE " ++ condition.sql,
    condition.params⟩

/-- Which customers have an account or an email? -/
structure CustomerLookup where
  account : Option UInt64
  email : Option String
  fragment : Sql.Fragment
  deriving DecidableEq, Repr

/-- There is nothing to look up without an account or an email. -/
def CustomerLookup.new? (schema : Schema) (account : Option UInt64) (email : Option String) :
    Option CustomerLookup :=
  let columns := schema.customer
  let clauses := (account.map fun _ => columns.accountId ++ " = ?").toList ++
    (email.map fun _ => columns.email ++ " = ?").toList
  if clauses.isEmpty then none
  else some ⟨account, email,
    "SELECT " ++ columns.id ++ ", " ++ columns.accountId ++ ", " ++ columns.email ++
      " FROM " ++ schema.customersTable ++ " WHERE " ++ String.intercalate " OR " clauses ++
      " ORDER BY " ++ columns.id,
    (account.map Sql.Value.uint).toList ++ (email.map Sql.Value.text).toList⟩

/-- Does one customer own a subscription that counts? -/
structure CustomerSubscriptionQuery where
  customer : UInt64
  predicate : Predicate
  fragment : Sql.Fragment
  deriving DecidableEq, Repr

def CustomerSubscriptionQuery.new (schema : Schema) (customer : UInt64) (predicate : Predicate) :
    CustomerSubscriptionQuery :=
  let condition := predicate.render subscriptionAlias schema.subscription
  let subscription (column : String) := subscriptionAlias ++ "." ++ column
  ⟨customer, predicate,
    "SELECT " ++ subscription schema.subscription.id ++
      " FROM " ++ schema.subscriptionsTable ++ " AS " ++ subscriptionAlias ++
      " WHERE " ++ subscription schema.subscription.customerId ++ " = ? AND " ++ condition.sql ++
      " LIMIT 1",
    .uint customer :: condition.params⟩

end SegmentRules.Commerce
