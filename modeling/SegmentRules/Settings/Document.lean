import SegmentRules.Settings.Basic
import SegmentRules.Sorted
import SegmentRules.Toml.Reader

/-! # Settings as TOML -/
namespace SegmentRules

open Document (FieldName Record)

namespace Toml.Value

def string? : Value → Option String
  | .string value => some value
  | _ => none

def double? : Value → Option Double
  | .float value => some value
  | .integer n => some (Double.ofInt n)
  | _ => none

def word? : Value → Option UInt64
  | .integer n => if 0 ≤ n ∧ n < UInt64.size then some (UInt64.ofNat n.toNat) else none
  | _ => none

/-- The slots of a record. Of a moment no field is known, and of a list those left over do not
count. -/
def record? (fields : List FieldName) : Value → Option (Record Value)
  | .table given => Record.ofNamed? fields given
  | .array items => some (Record.ofValues fields items)
  | .moment _ => Record.ofNamed? fields []
  | _ => none

end Toml.Value

namespace Settings

def ofToml? : Toml.Value → Option Settings :=
  read? ⟨Toml.Value.string?, Toml.Value.double?, Toml.Value.word?, Toml.Value.record?⟩

def ofText (text : String) : Except RuleError Settings :=
  match (Toml.ofText? text).bind ofToml? with
  | none => .error (.settings .unreadableText)
  | some settings => do
    settings.validate
    return settings

def columnsToToml (entries : List (String × String)) : List (String × Toml.Value) :=
  entries.map fun (name, column) => (name, .string column)

/-- A limit that TOML can hold: its integers have 64 bits with a sign. -/
def isWritable (settings : Settings) : Bool :=
  settings.selectorSearchLimit.toNat ≤ Int64.maxValue.toInt

/-- The settings as a table in the order they are written. The limit is one that TOML can hold. -/
def toToml (settings : Settings) : List (String × Toml.Value) :=
  [("table_prefix", .string settings.tablePrefix),
   ("subscriptions_table", .string settings.subscriptionsTable),
   ("customers_table", .string settings.customersTable),
   ("subscription_columns", .table (columnsToToml settings.subscriptionColumns.entries)),
   ("customer_columns", .table (columnsToToml settings.customerColumns.entries)),
   ("contact_columns", .table (columnsToToml settings.contactColumns.entries)),
   ("utc_offset_hours", .float settings.utcOffsetHours),
   ("commerce_provider", .string settings.commerceProvider),
   ("selector_search_limit", .integer settings.selectorSearchLimit.toNat)]

def toText (settings : Settings) : Except RuleError String :=
  if settings.isWritable then .ok (Toml.documentText settings.toToml)
  else .error (.settings .limitNotWritable)

end Settings
end SegmentRules
