import SegmentRules.Error
import SegmentRules.Schema

/-! # Settings -/
namespace SegmentRules

open Document (FieldName Record)

/-- Names of tables and columns, the site's distance from UTC in hours, the commerce provider and
how many products a search may find. -/
structure Settings where
  tablePrefix : String
  subscriptionsTable : String
  customersTable : String
  subscriptionColumns : SubscriptionColumns
  customerColumns : IdentityColumns
  contactColumns : IdentityColumns
  utcOffsetHours : Double
  commerceProvider : String
  selectorSearchLimit : UInt64
  deriving DecidableEq, Repr

namespace Settings

def standard : Settings where
  tablePrefix := "wp_"
  subscriptionsTable := "edd_subscriptions"
  customersTable := "edd_customers"
  subscriptionColumns := .standard
  customerColumns := .standard
  contactColumns := .standard
  utcOffsetHours := .zero
  commerceProvider := "edd"
  selectorSearchLimit := 50

/-- The keys in the order they are written. -/
def fields : List FieldName :=
  ["table_prefix", "subscriptions_table", "customers_table", "subscription_columns",
   "customer_columns", "contact_columns", "utc_offset_hours", "commerce_provider",
   "selector_search_limit"]

/-- How a kind of document holds the values of settings. -/
structure Reader (α : Type) where
  text? : α → Option String
  double? : α → Option Double
  word? : α → Option UInt64
  record? : List FieldName → α → Option (Record α)

/-- Settings from a document; the standard ones where it has none. -/
def read? (reader : Reader α) (value : α) : Option Settings := do
  let record ← reader.record? fields value
  let text (name : String) (fallback : String) := record.withDefault? name fallback reader.text?
  let identityColumns (name : String) : Option IdentityColumns :=
    record.withDefault? name .standard fun columns => do
      IdentityColumns.ofRecord? reader.text? (← reader.record? IdentityColumns.fields columns)
  return {
    tablePrefix := ← text "table_prefix" standard.tablePrefix
    subscriptionsTable := ← text "subscriptions_table" standard.subscriptionsTable
    customersTable := ← text "customers_table" standard.customersTable
    subscriptionColumns :=
      ← record.withDefault? "subscription_columns" .standard fun columns => do
        SubscriptionColumns.ofRecord? reader.text?
          (← reader.record? SubscriptionColumns.fields columns)
    customerColumns := ← identityColumns "customer_columns"
    contactColumns := ← identityColumns "contact_columns"
    utcOffsetHours :=
      ← record.withDefault? "utc_offset_hours" standard.utcOffsetHours reader.double?
    commerceProvider := ← text "commerce_provider" standard.commerceProvider
    selectorSearchLimit :=
      ← record.withDefault? "selector_search_limit" standard.selectorSearchLimit reader.word? }

def jsonDouble? : Json → Option Double
  | .integer n => some (Double.ofInt n)
  | .double x => some x
  | _ => none

def ofJson? : Json → Option Settings :=
  read? ⟨Json.string?, jsonDouble?, Json.uint64?, Json.record?⟩

def columnsToJson (entries : List (String × String)) : Json :=
  .object (entries.map fun (name, column) => (name, .string column))

def toJson (settings : Settings) : Json :=
  .object [("table_prefix", .string settings.tablePrefix),
    ("subscriptions_table", .string settings.subscriptionsTable),
    ("customers_table", .string settings.customersTable),
    ("subscription_columns", columnsToJson settings.subscriptionColumns.entries),
    ("customer_columns", columnsToJson settings.customerColumns.entries),
    ("contact_columns", columnsToJson settings.contactColumns.entries),
    ("utc_offset_hours", .double settings.utcOffsetHours),
    ("commerce_provider", .string settings.commerceProvider),
    ("selector_search_limit", .ofUInt64 settings.selectorSearchLimit)]

/-- Equal in every value; offsets are compared as numbers. -/
def same (a b : Settings) : Bool :=
  a.utcOffsetHours.same b.utcOffsetHours &&
    { a with utcOffsetHours := .zero } == { b with utcOffsetHours := .zero }

def schema (settings : Settings) : Schema where
  subscriptionsTable := settings.tablePrefix ++ settings.subscriptionsTable
  customersTable := settings.tablePrefix ++ settings.customersTable
  subscription := settings.subscriptionColumns
  customer := settings.customerColumns
  contact := settings.contactColumns

def isNameChar (c : Char) : Bool := c.isAlphanum || c == '_'

def isIdentifier (text : String) : Bool := !text.isEmpty && text.toList.all isNameChar

def columnNames (group : String) (entries : List (String × String)) : List (String × String) :=
  entries.map fun (name, column) => (group ++ "." ++ name, column)

/-- The names that end up in SQL text, but for the table prefix. -/
def identifiers (settings : Settings) : List (String × String) :=
  [("subscriptions_table", settings.subscriptionsTable),
   ("customers_table", settings.customersTable)] ++
    columnNames "subscription_columns" settings.subscriptionColumns.entries ++
    columnNames "customer_columns" settings.customerColumns.entries ++
    columnNames "contact_columns" settings.contactColumns.entries

/-- The first name that is no identifier. The table prefix may be empty. -/
def badIdentifier? (settings : Settings) : Option (String × String) :=
  if settings.tablePrefix.toList.all isNameChar then
    settings.identifiers.find? fun (_, value) => !isIdentifier value
  else some ("table_prefix", settings.tablePrefix)

/-- The distance from UTC in seconds; at most fourteen hours either way. -/
def utcOffset (settings : Settings) : Except RuleError Int :=
  let hours := settings.utcOffsetHours
  if hours.between (-14) 14 then .ok (hours.mul (Double.ofNat 3600)).round
  else .error (.settings (.offsetOutOfRange hours))

/-- What is wrong with the settings, if anything: names first, then the offset, the provider and
the limit. -/
def fault? (settings : Settings) : Option SettingsError :=
  match settings.badIdentifier? with
  | some (name, value) => some (.invalidIdentifier name value)
  | none =>
    if !settings.utcOffsetHours.between (-14) 14 then
      some (.offsetOutOfRange settings.utcOffsetHours)
    else if settings.commerceProvider.isEmpty then some .providerMissing
    else if settings.selectorSearchLimit = 0 then some .limitNotPositive
    else none

def validate (settings : Settings) : Except RuleError Unit :=
  match settings.fault? with
  | some fault => .error (.settings fault)
  | none => .ok ()

end Settings
end SegmentRules
