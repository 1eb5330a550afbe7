import SegmentRules.Double.Style
import SegmentRules.Toml.Value

/-! # Writing TOML

A text is written in the first form that holds it without escapes, if there is one. -/
namespace SegmentRules.Toml

/-- TOML numbers have no exponent and keep their point. -/
def floatStyle : Double.Style := ⟨-1000, 1000, true, false, .up, "nan", true⟩

/-- Characters that stand in a text only by number or letter; a tab and a line break do not. -/
def isControl (c : Char) : Bool := (c.toNat < 0x20 && c ≠ '\t' && c ≠ '\n') || c.toNat == 0x7F

def longestRun (mark : Char) (run longest : Nat) : List Char → Nat
  | [] => longest
  | c :: rest =>
    let run := if c = mark then run + 1 else 0
    longestRun mark run (max run longest) rest

def numberEscape (c : Char) : List Char :=
  let digits := Numeral.digits 16 c.toNat
  ['\\', 'u'] ++ List.replicate (4 - digits.length) '0' ++ digits.map Char.toUpper

def escape (isMultiline : Bool) (c : Char) : List Char :=
  if c = '\x08' then ['\\', 'b']
  else if c = '\t' then ['\\', 't']
  else if c = '\n' then if isMultiline then ['\n'] else ['\\', 'n']
  else if c = '\x0c' then ['\\', 'f']
  else if c = '\r' then ['\\', 'r']
  else if c = '\\' then ['\\', '\\']
  else if isControl c then numberEscape c
  else [c]

/-- A text between double quotes. Quotes are escaped when more than `most` follow each other,
`run` of them already written. -/
def escapeAll (isMultiline : Bool) (most run : Nat) : List Char → List Char
  | [] => []
  | c :: rest =>
    if c = '"' then
      if run < most then '"' :: escapeAll isMultiline most (run + 1) rest
      else '\\' :: '"' :: escapeAll isMultiline most 0 rest
    else escape isMultiline c ++ escapeAll isMultiline most 0 rest

def basicText (text : List Char) : List Char := '"' :: escapeAll false 0 0 text ++ ['"']

/-- A form over several lines; behind a first line break one more is not counted. -/
def multiline (quotes text content : List Char) : List Char :=
  quotes ++ (if text.contains '\n' then ['\n'] else []) ++ content ++ quotes

def multilineBasicText (text : List Char) : List Char :=
  multiline ['"', '"', '"'] text (escapeAll true 2 0 text)

def stringText (text : String) : String :=
  let chars := text.toList
  let hasControl := chars.any isControl
  let hasBreak := chars.contains '\n'
  let hasBackslash := chars.contains '\\'
  let quotes := longestRun '"' 0 0 chars
  let apostrophes := longestRun '\'' 0 0 chars
  String.ofList <|
    if !hasControl && !hasBreak && !hasBackslash && quotes == 0 then basicText chars
    else if !hasControl && !hasBreak && apostrophes == 0 then '\'' :: chars ++ ['\'']
    else if !hasControl && !hasBackslash && quotes < 3 then multilineBasicText chars
    else if !hasControl && apostrophes < 3 then multiline ['\'', '\'', '\''] chars chars
    else if hasBreak then multilineBasicText chars
    else basicText chars

def isBareKeyChar (c : Char) : Bool := c.isAlphanum || c == '_' || c == '-'

def keyText (key : String) : String :=
  if !key.isEmpty && key.toList.all isBareKeyChar then key else stringText key

mutual

/-- A value on one line, but for texts that need several. -/
def Value.text : Value → String
  | .string value => stringText value
  | .integer value => Numeral.signed value
  | .float value => value.text floatStyle
  | .boolean value => if value then "true" else "false"
  | .moment written => written
  | .array items => "[" ++ String.intercalate ", " (itemTexts items) ++ "]"
  | .table [] => "\x7b\x7d"
  | .table fields => "\x7b " ++ String.intercalate ", " (fieldTexts fields) ++ " \x7d"

def itemTexts : List Value → List String
  | [] => []
  | item :: rest => item.text :: itemTexts rest

def fieldTexts : List (String × Value) → List String
  | [] => []
  | (key, value) :: rest => (keyText key ++ " = " ++ value.text) :: fieldTexts rest

end

/-- A value shown on its own: a text as it is. -/
def Value.display : Value → String
  | .string value => value
  | value => value.text

def entryLine (key : String) (value : Value) : String := keyText key ++ " = " ++ value.text ++ "\n"

/-- Tables one level deep as sections behind the other values, each behind an empty line. -/
def documentText (fields : List (String × Value)) : String :=
  let isSection (field : String × Value) : Bool :=
    match field.2 with
    | .table _ => true
    | _ => false
  let scalars := fields.filter fun field => !isSection field
  let sections := (fields.filter isSection).map fun (key, value) =>
    "\n[" ++ keyText key ++ "]\n" ++
      match value with
      | .table entries => String.join (entries.map fun (key, value) => entryLine key value)
      | _ => ""
  String.join (scalars.map fun (key, value) => entryLine key value) ++ String.join sections

end SegmentRules.Toml
