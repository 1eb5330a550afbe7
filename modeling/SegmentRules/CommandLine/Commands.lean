import SegmentRules.Commerce.Query
import SegmentRules.CommandLine.Arguments
import SegmentRules.CommandLine.Grid
import SegmentRules.CommandLine.Yaml
import SegmentRules.Rules.Compiler
import SegmentRules.Settings.Edit
import SegmentRules.Settings.File

/-! # The commands of the program -/
namespace SegmentRules.CommandLine

open Files (Disk)

inductive CommandError
  | rule (error : RuleError)
  | edit (error : EditError)
  | fileExists (path : String)
  | invalidNow (text : String)
  deriving DecidableEq, Repr

def CommandError.message : CommandError → String
  | .rule error => error.message
  | .edit error => error.message
  | .fileExists path => path ++ " already exists"
  | .invalidNow text => "Invalid --now " ++ Text.quoted text

structure CompiledFilter where
  property : String
  operator : Operator
  window : Option Window
  fragment : Sql.Fragment
  deriving DecidableEq, Repr

def CompiledFilter.toJson (filter : CompiledFilter) : Json :=
  .object [("property", .string filter.property), ("operator", filter.operator.toJson),
    ("window", .ofOption Window.toJson filter.window), ("sql", .string filter.fragment.sql),
    ("params", .array (filter.fragment.params.map Sql.Value.toJson))]

/-- Data in a format, with the rows that stand for it in a table. -/
def showAs (format : Format) (data : Json) (rows : List (List String)) : String :=
  match format with
  | .table => Grid.render rows ++ "\n"
  | .json => data.renderPretty 0 ++ "\n"
  | .yaml => Yaml.render data ++ "\n"

def catalogRow (item : ConditionItem) : List String :=
  [item.value, item.label,
   String.intercalate ", " (item.customOperators.map fun (operator, label) =>
     operator.name ++ " (" ++ label ++ ")"),
   if item.disabled then "disabled" else "enabled"]

def catalog (settings : Settings) (commerceEnabled recurring : Bool) (format : Format) : String :=
  let providers := if commerceEnabled then [settings.commerceProvider] else []
  let group := (Catalog.new ⟨providers, recurring⟩ settings.commerceProvider).filterGroup
  showAs format group.toJson
    (["Condition", "Label", "Operators", "Status"] :: group.children.map catalogRow)

def requestTime (clock : Instant) : Option String → Except CommandError Instant
  | none => .ok clock
  | some text =>
    match Instant.ofText? text with
    | some now => .ok now
    | none => .error (.invalidNow text)

def bindingRows : Nat → List Sql.Value → List (List String)
  | _, [] => []
  | position, value :: rest =>
    [Numeral.decimal position, value.display] :: bindingRows (position + 1) rest

/-- A compiled filter in a format; a table has the SQL before it. -/
def showCompiled (format : Format) (filter : CompiledFilter) : String :=
  (if format = .table then filter.fragment.sql ++ "\n" else "") ++
    showAs format filter.toJson (["#", "Value"] :: bindingRows 1 filter.fragment.params)

/-- The query for the members of a filter's segment. A filter that would be skipped is no error. -/
def compile (clock : Instant) (settings : Settings) (request : CompileRequest) (format : Format) :
    Except CommandError String := do
  let now ← requestTime clock request.now
  let offset ← settings.utcOffset.mapError .rule
  let filter : Filter := ⟨request.property, some request.operator, .strings request.values⟩
  match Compiler.compile ⟨.withGate true, now, offset⟩ filter with
  | .ok compiled =>
    let query := Commerce.MembershipQuery.new settings.schema compiled.predicate
    return showCompiled format ⟨compiled.condition.kind.key, compiled.condition.operator,
      compiled.predicate.window, query.fragment⟩
  | .error error =>
    if error.isSkippable then return "Skipped: " ++ error.message ++ "\n" else .error (.rule error)

def load (disk : Disk) (path : String) : Except CommandError Settings :=
  (Settings.load disk path).mapError .rule

def saveSaying (text : String) (settings : Settings) (disk : Disk) (path : String) :
    Except CommandError String × Disk :=
  let (result, disk) := settings.save disk path
  ((result.map fun _ => text).mapError .rule, disk)

def changed (disk : Disk) (path key value : String) : Except CommandError Settings := do
  ((← load disk path).set key value).mapError .edit

def entryLine (key value : String) : String := key ++ ": " ++ value ++ "\n"

def showEntry (key : String) (settings : Settings) : Except CommandError String :=
  ((settings.get key).map (entryLine key)).mapError .edit

def showEntries (settings : Settings) : Except CommandError String :=
  (settings.entries.map fun entries => String.join (entries.map fun (key, value) =>
    entryLine key value)).mapError .edit

def viewing (text : Settings → Except CommandError String) (disk : Disk) (path : String) :
    Except CommandError String × Disk :=
  (load disk path >>= text, disk)

/-- Run a command over the settings in a file: what it prints, and the files after it. `clock` is
the present time. -/
def run (clock : Instant) (disk : Disk) (path : String) (format : Format) (command : Command) :
    Except CommandError String × Disk :=
  match command with
  | .init =>
    if (disk.at? (.ofText path)).isSome then (.error (.fileExists path), disk)
    else saveSaying ("Configuration initialized at " ++ path ++ "\n") .standard disk path
  | .set key value =>
    match changed disk path key value with
    | .error error => (.error error, disk)
    | .ok settings => saveSaying ("Set " ++ key ++ " successfully\n") settings disk path
  | .get key => viewing (showEntry key) disk path
  | .list => viewing showEntries disk path
  | .catalog commerceEnabled recurring =>
    viewing (fun settings => .ok (catalog settings commerceEnabled recurring format)) disk path
  | .compile request =>
    viewing (fun settings => compile clock settings request format) disk path

structure Outcome where
  code : Nat
  stdout : String
  stderr : String
  disk : Disk
  deriving DecidableEq, Repr

def versionText : String := "sase-rules 0.1.0\n"

def usageText : String :=
  "Usage: sase-rules [--config <CONFIG>] [--format <FORMAT>] <COMMAND>\n\n" ++
    "Commands:\n  catalog [--commerce-enabled] [--recurring]\n" ++
    "  compile --property <PROPERTY> [--operator <OPERATOR>] [--now <NOW>] <VALUES>...\n" ++
    "  config init | list | get <KEY> | set <KEY> <VALUE>\n"

def standardPath (home : String) : String := home ++ "/.opensase/rules.toml"

/-- The file of the settings. The one named among the arguments goes before the one named by the
environment, and this before the one in the home directory. -/
def Invocation.path (invocation : Invocation) (home : String) (environment : Option String) :
    String :=
  (invocation.config.orElse fun _ => environment).getD (standardPath home)

def invoke (clock : Instant) (home : String) (environment : Option String) (disk : Disk)
    (arguments : List String) : Outcome :=
  match parse arguments with
  | .error .help => ⟨0, usageText, "", disk⟩
  | .error .version => ⟨0, versionText, "", disk⟩
  | .error .usage => ⟨2, "", usageText, disk⟩
  | .ok invocation =>
    let path := invocation.path home environment
    match run clock disk path invocation.format invocation.command with
    | (.ok text, disk) => ⟨0, text, "", disk⟩
    | (.error (.rule .panicked), disk) => ⟨101, "", RuleError.panicked.message ++ "\n", disk⟩
    | (.error error, disk) => ⟨1, "", "Error: " ++ error.message ++ "\n", disk⟩

end SegmentRules.CommandLine
