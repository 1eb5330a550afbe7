import SegmentRules.Text.Parts
import SegmentRules.Toml.Scalar
import SegmentRules.Toml.Table
import SegmentRules.Toml.Writer

/-! # Reading TOML documents -/
namespace SegmentRules.Toml

/-- Keys with fewer parts, and values inside fewer arrays and tables, are read. -/
def depthLimit : Nat := 80

def skipBlanks (text : List Char) : List Char := text.dropWhile isBlank

def keyPart? (text : List Char) : Option (String × List Char) :=
  match text with
  | '"' :: rest => (basic? (rest.length + 1) rest).map fun (key, rest) => (String.ofList key, rest)
  | '\'' :: rest => (literal? rest).map fun (key, rest) => (String.ofList key, rest)
  | text =>
    match text.takeWhile isBareKeyChar with
    | [] => none
    | key => some (String.ofList key, text.drop key.length)

def keyParts? : Nat → List Char → Option (List String × List Char)
  | 0, _ => none
  | fuel + 1, text => do
    let (part, rest) ← keyPart? (skipBlanks text)
    match skipBlanks rest with
    | '.' :: rest =>
      let (parts, rest) ← keyParts? fuel rest
      return (part :: parts, rest)
    | rest => return ([part], rest)

def key? (text : List Char) : Option ((List String × String) × List Char) := do
  let (parts, rest) ← keyParts? (text.length + 1) text
  if depthLimit ≤ parts.length then none
  return ((parts.dropLast, ← parts.getLast?), rest)

def afterComment (text : List Char) : List Char :=
  match text with
  | '#' :: rest => rest.dropWhile isPlain
  | text => text

def skipLines : Nat → List Char → List Char
  | 0, text => text
  | fuel + 1, text =>
    let text := skipBlanks text
    match lineBreak? (afterComment text) with
    | some rest => skipLines fuel rest
    | none => text

def word? (word : List Char) (value : Value) (text : List Char) : Option (Value × List Char) :=
  (Text.dropStart? word text).map fun rest => (value, rest)

mutual

/-- A value inside `depth` arrays and tables. The first argument bounds the calls. -/
def value? : Nat → Nat → List Char → Option (Value × List Char)
  | 0, _, _ => none
  | _, _, [] => none
  | fuel + 1, depth, c :: rest =>
    if c = '"' ∨ c = '\'' then
      (string? (c :: rest)).map fun (text, rest) => (.string (String.ofList text), rest)
    else if c = '[' then
      if depthLimit ≤ depth + 1 then none
      else (items? fuel (depth + 1) rest).map fun (items, rest) => (.array items, rest)
    else if c = '\x7b' then
      if depthLimit ≤ depth + 1 then none
      else match skipBlanks rest with
        | '\x7d' :: rest => some (.table [], rest)
        | rest => (pairs? fuel (depth + 1) [] rest).map fun (fields, rest) =>
            (.table (fieldsToValues fields), rest)
    else if c = 't' then word? ['r', 'u', 'e'] (.boolean true) rest
    else if c = 'f' then word? ['a', 'l', 's', 'e'] (.boolean false) rest
    else match moment? (c :: rest) with
      | some result => some result
      | none => number? (c :: rest)

def items? : Nat → Nat → List Char → Option (List Value × List Char)
  | 0, _, _ => none
  | fuel + 1, depth, text =>
    match skipLines text.length text with
    | ']' :: rest => some ([], rest)
    | text => do
      let (item, rest) ← value? fuel depth text
      match skipLines rest.length rest with
      | ',' :: rest =>
        let (items, rest) ← items? fuel depth rest
        return (item :: items, rest)
      | ']' :: rest => return ([item], rest)
      | _ => none

def pairs? : Nat → Nat → Fields → List Char → Option (Fields × List Char)
  | 0, _, _, _ => none
  | fuel + 1, depth, fields, text => do
    let ((path, key), rest) ← key? text
    match rest with
    | '=' :: rest =>
      let (value, rest) ← value? fuel depth (skipBlanks rest)
      let fields ← addValue? path key value .header fields
      match skipBlanks rest with
      | ',' :: rest => pairs? fuel depth fields rest
      | '\x7d' :: rest => return (fields, rest)
      | _ => none
    | _ => none

end

def lineEnd? (text : List Char) : Option (List Char) :=
  match afterComment (skipBlanks text) with
  | [] => some []
  | rest => lineBreak? rest

def atHeader? (header : List String) (change : Origin → Fields → Option Fields) (root : Fields) :
    Option Fields :=
  update? false change header .header root

/-- The tables of a document's lines from the one with header `header` on, added to those of the
lines before. -/
def lines? : Nat → List String → Fields → List Char → Option Fields
  | 0, _, _, _ => none
  | fuel + 1, header, root, text =>
    match skipBlanks text with
    | [] => some root
    | '[' :: '[' :: rest => do
      let ((path, key), rest) ← key? rest
      match rest with
      | ']' :: ']' :: rest =>
        let rest ← lineEnd? rest
        lines? fuel (path ++ [key]) (← atHeader? path (openItem? key) root) rest
      | _ => none
    | '[' :: rest => do
      let ((path, key), rest) ← key? rest
      match rest with
      | ']' :: rest =>
        let rest ← lineEnd? rest
        lines? fuel (path ++ [key]) (← atHeader? path (openTable? key) root) rest
      | _ => none
    | text =>
      match lineEnd? text with
      | some rest => lines? fuel header root rest
      | none => do
        let ((path, key), rest) ← key? text
        match rest with
        | '=' :: rest =>
          let (value, rest) ← value? (2 * rest.length + 2) 0 (skipBlanks rest)
          let rest ← lineEnd? rest
          lines? fuel header (← atHeader? header (addValue? path key value) root) rest
        | _ => none

def afterByteOrderMark : List Char → List Char
  | '\uFEFF' :: rest => rest
  | text => text

def ofText? (text : String) : Option Value :=
  let chars := afterByteOrderMark text.toList
  (lines? (chars.length + 1) [] [] chars).map fun root => .table (fieldsToValues root)

end SegmentRules.Toml
