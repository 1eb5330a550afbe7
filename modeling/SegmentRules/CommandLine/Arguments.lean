import SegmentRules.Text.Parts

/-! # Arguments of the command line

Options of the program stand before the command, options of a command behind it. Words behind `--`
are no options. -/
namespace SegmentRules.CommandLine

inductive Format
  | table
  | json
  | yaml
  deriving DecidableEq, Repr

structure CompileRequest where
  property : String
  operator : String
  now : Option String
  values : List String
  deriving DecidableEq, Repr

inductive Command
  | catalog (commerceEnabled recurring : Bool)
  | compile (request : CompileRequest)
  | init
  | list
  | get (key : String)
  | set (key value : String)
  deriving DecidableEq, Repr

structure Invocation where
  config : Option String
  format : Format
  command : Command
  deriving DecidableEq, Repr

/-- Why arguments are no invocation: they ask for information, or they are wrong. -/
inductive Stop
  | help
  | version
  | usage
  deriving DecidableEq, Repr

def Format.ofName? : String → Option Format
  | "table" => some .table
  | "json" => some .json
  | "yaml" => some .yaml
  | _ => none

/-- An option that is given by a name or a letter. With `accepts?` it takes a value. -/
structure Switch where
  name : String
  letter : Option Char
  accepts? : Option (String → Bool)
  stop : Option Stop

def flag (name : String) : Switch := ⟨name, none, none, none⟩

def valued (name : String) : Switch := ⟨name, none, some fun _ => true, none⟩

def helpSwitch : Switch := ⟨"help", some 'h', none, some .help⟩

def programSwitches : List Switch :=
  [⟨"config", none, some fun path => path ≠ "", none⟩,
   ⟨"format", some 'f', some fun name => (Format.ofName? name).isSome, none⟩,
   helpSwitch, ⟨"version", some 'V', none, some .version⟩]

/-- The options and the words found so far, and the arguments not looked at. -/
structure Scan where
  given : List (String × String)
  words : List String
  rest : List String
  deriving DecidableEq, Repr

namespace Scan

def has (scan : Scan) (name : String) : Bool := (scan.given.lookup name).isSome

def value? (scan : Scan) (name : String) : Option String := scan.given.lookup name

/-- Note an option. It is given once, with a value it accepts. -/
def note (scan : Scan) (switch : Switch) (value : String) : Except Stop Scan :=
  if scan.has switch.name then .error .usage
  else if switch.accepts?.all (· value) then
    .ok { scan with given := scan.given ++ [(switch.name, value)] }
  else .error .usage

def addWord (scan : Scan) (word : String) : Scan := { scan with words := scan.words ++ [word] }

end Scan

def looksLikeOption (argument : String) : Bool :=
  match argument.toList with
  | '-' :: _ :: _ => true
  | _ => false

inductive Argument
  | word (text : String)
  | escape
  | named (name : String) (value : Option String)
  | lettered (letter : Char) (rest : List Char)
  deriving DecidableEq, Repr

def Argument.of (text : String) : Argument :=
  match text.toList with
  | ['-', '-'] => .escape
  | '-' :: '-' :: name =>
    match Text.splitFirst '=' name with
    | some (name, value) => .named (String.ofList name) (some (String.ofList value))
    | none => .named (String.ofList name) none
  | '-' :: letter :: rest => .lettered letter rest
  | _ => .word text

/-- A value written in one argument with its letter, possibly behind an equals sign. -/
def attached? : List Char → Option String
  | [] => none
  | '=' :: value => some (String.ofList value)
  | value => some (String.ofList value)

def findSwitch? (switches : List Switch) : Argument → Option (Switch × Option String)
  | .named name value => (switches.find? (·.name == name)).map (·, value)
  | .lettered letter rest =>
    (switches.find? (·.letter == some letter)).map fun switch =>
      (switch, if switch.stop.isSome then none else attached? rest)
  | _ => none

/-- What a command takes: options, and words up to a number, or a further command. -/
structure Shape where
  switches : List Switch
  mostWords : Option Nat
  expectsCommand : Bool

def Shape.isExceeded (shape : Shape) (count : Nat) : Bool := shape.mostWords.any (· < count)

/-- Go through arguments up to the end or, where a command is expected, up to the first word. The
first argument that does not fit decides. -/
def scanArguments (shape : Shape) : Scan → List String → Except Stop Scan
  | scan, [] => .ok scan
  | scan, argument :: rest =>
    match Argument.of argument with
    | .escape =>
      if shape.expectsCommand || shape.isExceeded (scan.words.length + rest.length) then
        .error .usage
      else .ok { scan with words := scan.words ++ rest }
    | .word text =>
      if shape.expectsCommand then .ok { scan.addWord text with rest := rest }
      else if shape.isExceeded (scan.words.length + 1) then .error .usage
      else scanArguments shape (scan.addWord text) rest
    | argument =>
      match findSwitch? shape.switches argument with
      | none => .error .usage
      | some (switch, value) =>
        match switch.stop, switch.accepts?, value, rest with
        | some stop, _, none, _ => .error stop
        | some _, _, some _, _ => .error .usage
        | none, none, none, rest => do scanArguments shape (← scan.note switch "") rest
        | none, none, some _, _ => .error .usage
        | none, some _, some value, rest => do scanArguments shape (← scan.note switch value) rest
        | none, some _, none, [] => .error .usage
        | none, some _, none, value :: rest => do
          if looksLikeOption value then .error .usage
          else scanArguments shape (← scan.note switch value) rest

def scanToCommand (switches : List Switch) (arguments : List String) : Except Stop Scan :=
  scanArguments ⟨switches, none, true⟩ ⟨[], [], []⟩ arguments

def scanWords (switches : List Switch) (mostWords : Option Nat) (arguments : List String) :
    Except Stop Scan :=
  scanArguments ⟨helpSwitch :: switches, mostWords, false⟩ ⟨[], [], []⟩ arguments

def catalogCommand (arguments : List String) : Except Stop Command := do
  let scan ← scanWords [flag "commerce-enabled", flag "recurring"] (some 0) arguments
  return .catalog (scan.has "commerce-enabled") (scan.has "recurring")

def compileCommand (arguments : List String) : Except Stop Command := do
  let scan ← scanWords [valued "property", valued "operator", valued "now"] none arguments
  match scan.value? "property" with
  | none => .error .usage
  | some property =>
    if scan.words.isEmpty then .error .usage
    else
      let operator := (scan.value? "operator").getD "in"
      return .compile ⟨property, operator, scan.value? "now", scan.words⟩

def helpOn : List String → List String → Except Stop Command
  | _, [] => .error .help
  | commands, name :: rest =>
    if commands.contains name then
      helpOn (if name = "config" then ["set", "get", "list", "init", "help"] else []) rest
    else .error .usage

def plainWords (count : Nat) (arguments : List String) : Except Stop (List String) := do
  return (← scanWords [] (some count) arguments).words

def configCommand (arguments : List String) : Except Stop Command := do
  let scan ← scanToCommand [helpSwitch] arguments
  match scan.words with
  | ["set"] =>
    match ← plainWords 2 scan.rest with
    | [key, value] => return .set key value
    | _ => .error .usage
  | ["get"] =>
    match ← plainWords 1 scan.rest with
    | [key] => return .get key
    | _ => .error .usage
  | ["list"] =>
    let _ ← plainWords 0 scan.rest
    return .list
  | ["init"] =>
    let _ ← plainWords 0 scan.rest
    return .init
  | ["help"] => helpOn ["set", "get", "list", "init", "help"] scan.rest
  | _ => .error .usage

def parse (arguments : List String) : Except Stop Invocation := do
  let scan ← scanToCommand programSwitches arguments
  let command ← match scan.words with
    | ["catalog"] => catalogCommand scan.rest
    | ["compile"] => compileCommand scan.rest
    | ["config"] => configCommand scan.rest
    | ["help"] => helpOn ["catalog", "compile", "config", "help"] scan.rest
    | _ => .error .usage
  let format := ((scan.value? "format").bind Format.ofName?).getD .table
  return ⟨scan.value? "config", format, command⟩

end SegmentRules.CommandLine
