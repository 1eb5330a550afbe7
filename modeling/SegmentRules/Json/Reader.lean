import SegmentRules.Json.Number
import SegmentRules.Text.Parts

/-! # Reading JSON text -/
namespace SegmentRules.Json

/-- How many arrays and objects may stand around a value. -/
def depthLimit : Nat := 127

def isSpace (c : Char) : Bool := c = ' ' || c = '\t' || c = '\n' || c = '\r'

def skipSpace (text : List Char) : List Char := text.dropWhile isSpace

def hexUnit? (a b c d : Char) : Option Nat := do
  return ((← Numeral.hexDigit? a) * 16 + (← Numeral.hexDigit? b)) * 256 +
    ((← Numeral.hexDigit? c) * 16 + (← Numeral.hexDigit? d))

def escaped? : Char → Option Char
  | '"' => some '"'
  | '\\' => some '\\'
  | '/' => some '/'
  | 'b' => some '\x08'
  | 'f' => some '\x0c'
  | 'n' => some '\n'
  | 'r' => some '\r'
  | 't' => some '\t'
  | _ => none

/-- The numbers of the characters up to the closing quote. Escapes by number may give halves of
surrogate pairs. -/
def readUnits? : List Char → Option (List Nat × List Char)
  | [] => none
  | '"' :: rest => some ([], rest)
  | '\\' :: 'u' :: a :: b :: c :: d :: rest => do
    let unit ← hexUnit? a b c d
    let (units, rest) ← readUnits? rest
    return (unit :: units, rest)
  | '\\' :: c :: rest => do
    let c ← escaped? c
    let (units, rest) ← readUnits? rest
    return (c.toNat :: units, rest)
  | c :: rest => do
    if c.toNat < 0x20 ∨ c = '\\' then none
    let (units, rest) ← readUnits? rest
    return (c.toNat :: units, rest)

/-- The characters of units; a surrogate counts only in a pair. -/
def ofUnits? : List Nat → Option (List Char)
  | [] => some []
  | high :: low :: rest =>
    if 0xD800 ≤ high ∧ high < 0xDC00 ∧ 0xDC00 ≤ low ∧ low < 0xE000 then
      (ofUnits? rest).map (Char.ofNat (0x10000 + (high - 0xD800) * 0x400 + (low - 0xDC00)) :: ·)
    else if 0xD800 ≤ high ∧ high < 0xE000 then none
    else (ofUnits? (low :: rest)).map (Char.ofNat high :: ·)
  | [unit] => if 0xD800 ≤ unit ∧ unit < 0xE000 then none else some [Char.ofNat unit]

/-- The text behind an opening quote: `none` in the first place if it denotes no text. -/
def readText? (text : List Char) : Option (Option String × List Char) :=
  (readUnits? text).map fun (units, rest) => ((ofUnits? units).map String.ofList, rest)

def atDepth (depth : Nat) (value : Json) : Json := if depth < depthLimit then value else .unreadable

/-- The object of fields, unless some key denotes no text. -/
def ofFields (fields : List (Option String × Json)) : Json :=
  match fields.mapM fun (key, value) => key.map (·, value) with
  | some fields => .object fields
  | none => .unreadable

def readWord? (word : List Char) (value : Json) (text : List Char) : Option (Json × List Char) :=
  (Text.dropStart? word text).map fun rest => (value, rest)

mutual

/-- A value at the start of a text, inside `depth` arrays and objects. The first argument bounds the
calls. -/
def readValue? : Nat → Nat → List Char → Option (Json × List Char)
  | 0, _, _ => none
  | fuel + 1, depth, text =>
    match skipSpace text with
    | [] => none
    | c :: rest =>
      if c = '"' then
        (readText? rest).map fun (text, rest) => (text.elim .unreadable .string, rest)
      else if c = '[' then
        match skipSpace rest with
        | ']' :: rest => some (atDepth depth (.array []), rest)
        | rest => (readItems? fuel (depth + 1) rest).map fun (items, rest) =>
            (atDepth depth (.array items), rest)
      else if c = '\x7b' then
        match skipSpace rest with
        | '\x7d' :: rest => some (atDepth depth (.object []), rest)
        | rest => (readFields? fuel (depth + 1) rest).map fun (fields, rest) =>
            (atDepth depth (ofFields fields), rest)
      else if c = 'n' then readWord? ['u', 'l', 'l'] .null rest
      else if c = 't' then readWord? ['r', 'u', 'e'] (.bool true) rest
      else if c = 'f' then readWord? ['a', 'l', 's', 'e'] (.bool false) rest
      else (NumberText.read? (c :: rest)).map fun (number, rest) =>
        (number.value?.getD .unreadable, rest)

def readItems? : Nat → Nat → List Char → Option (List Json × List Char)
  | 0, _, _ => none
  | fuel + 1, depth, text => do
    let (item, text) ← readValue? fuel depth text
    match skipSpace text with
    | ',' :: rest =>
      let (items, rest) ← readItems? fuel depth rest
      return (item :: items, rest)
    | ']' :: rest => return ([item], rest)
    | _ => none

def readFields? : Nat → Nat → List Char → Option (List (Option String × Json) × List Char)
  | 0, _, _ => none
  | fuel + 1, depth, text =>
    match skipSpace text with
    | '"' :: rest => do
      let (key, rest) ← readText? rest
      match skipSpace rest with
      | ':' :: rest =>
        let (value, rest) ← readValue? fuel depth rest
        match skipSpace rest with
        | ',' :: rest =>
          let (fields, rest) ← readFields? fuel depth rest
          return ((key, value) :: fields, rest)
        | '\x7d' :: rest => return ([(key, value)], rest)
        | _ => none
      | _ => none
    | _ => none

end

def ofText? (text : String) : Option Json :=
  let chars := text.toList
  match readValue? (2 * chars.length + 2) 0 chars with
  | some (value, rest) => if (skipSpace rest).isEmpty then some value else none
  | none => none

end SegmentRules.Json
