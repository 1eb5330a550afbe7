import SegmentRules.Settings.Document
import SegmentRules.Text.Parts

/-! # Reading and changing settings by key

Settings are seen as a tree of tables sorted by key. A key leads to a value by its parts between
dots. -/
namespace SegmentRules

inductive ValueFault
  | integer (fault : Numeral.Fault)
  | float (fault : Double.Fault)
  | boolean
  | negativeLimit (n : Int)
  deriving DecidableEq, Repr

def ValueFault.message : ValueFault → String
  | .integer fault => fault.message
  | .float fault => fault.message
  | .boolean => "provided string was not `true` or `false`"
  | .negativeLimit n =>
    "invalid value: integer `" ++ Numeral.signed n ++
      "`, expected usize\nin `selector_search_limit`\n"

inductive EditError
  | limitTooLarge
  | unknownKey (key : String)
  | isSection (key : String)
  | invalidValue (key : String) (fault : ValueFault)
  | rule (error : RuleError)
  deriving DecidableEq, Repr

def EditError.message : EditError → String
  | .limitTooLarge => "u64 value was too large"
  | .unknownKey key => "Unknown config key: " ++ key
  | .isSection key => key ++ " is a section, set one of its keys"
  | .invalidValue key fault => "Invalid value for " ++ key ++ ": " ++ fault.message
  | .rule error => error.message

namespace Toml

def sortFields (fields : List (String × Value)) : List (String × Value) :=
  fields.foldl (fun sorted (key, value) =>
    Sorted.insertPair Sorted.textBefore key value sorted) []

def sortedTable (fields : List (String × Value)) : Value :=
  .table (sortFields (fields.map fun (key, value) =>
    (key, match value with
      | .table inner => .table (sortFields inner)
      | value => value)))

end Toml

namespace Settings

def tree (settings : Settings) : Except EditError Toml.Value :=
  if settings.isWritable then .ok (Toml.sortedTable settings.toToml) else .error .limitTooLarge

def keyPath (key : String) : List String := (Text.split '.' key.toList).map String.ofList

def find (tree : Toml.Value) (key : String) : Except EditError Toml.Value :=
  match tree.at? (keyPath key) with
  | some value => .ok value
  | none => .error (.unknownKey key)

def get (settings : Settings) (key : String) : Except EditError String := do
  return (← find (← settings.tree) key).display

/-- A value of the same type as another one, from its text. -/
def valueLike (key : String) (raw : String) : Toml.Value → Except EditError Toml.Value
  | .string _ => .ok (.string raw)
  | .integer _ =>
    match Numeral.readSigned raw.toList with
    | .ok n => .ok (.integer n)
    | .error fault => .error (.invalidValue key (.integer fault))
  | .float _ =>
    match Double.read raw.toList with
    | .ok x => .ok (.float x)
    | .error fault => .error (.invalidValue key (.float fault))
  | .boolean _ =>
    if raw = "true" then .ok (.boolean true)
    else if raw = "false" then .ok (.boolean false)
    else .error (.invalidValue key .boolean)
  | _ => .error (.isSection key)

/-- Settings from a changed tree. Only a negative limit makes none. -/
def ofChanged (key : String) (value tree : Toml.Value) : Except EditError Settings :=
  match ofToml? tree with
  | some settings => .ok settings
  | none =>
    .error (.invalidValue key (.negativeLimit (match value with
      | .integer n => n
      | _ => 0)))

/-- The settings with another value under a key, as long as they are valid. -/
def set (settings : Settings) (key raw : String) : Except EditError Settings := do
  let tree ← settings.tree
  let value ← valueLike key raw (← find tree key)
  let changed ← match Toml.Value.replaceAt? value (keyPath key) tree with
    | some changed => .ok changed
    | none => .error (.unknownKey key)
  let settings ← ofChanged key value changed
  match settings.validate with
  | .ok () => .ok settings
  | .error error => .error (.rule error)

def entries (settings : Settings) : Except EditError (List (String × String)) := do
  let tree ← settings.tree
  return (tree.leaves "").map fun (key, value) => (key, value.display)

end Settings
end SegmentRules
