import SegmentRules.Calendar.Date
import SegmentRules.Double.Reader
import SegmentRules.Toml.Value

/-! # Reading single TOML values

Each function reads a value at the start of a text and returns the rest. -/
namespace SegmentRules.Toml

open Calendar (Date)

/-- Characters of comments, and of texts that may hold any quote. -/
def isPlain (c : Char) : Bool := c = '\t' || (0x20 ≤ c.toNat && c.toNat != 0x7F)

def isBlank (c : Char) : Bool := c = ' ' || c = '\t'

/-- One or more digits. An underscore may stand between two of them. -/
def digitRun? (isDigit : Char → Bool) : List Char → Option (List Char × List Char)
  | [] => none
  | [c] => if isDigit c then some ([c], []) else none
  | c :: '_' :: rest =>
    if isDigit c then (digitRun? isDigit rest).map fun (digits, rest) => (c :: digits, rest)
    else none
  | c :: next :: rest =>
    if !isDigit c then none
    else if isDigit next then
      (digitRun? isDigit (next :: rest)).map fun (digits, rest) => (c :: digits, rest)
    else some ([c], next :: rest)

/-- The digits before a point; no zero stands before others. -/
def wholeDigits? : List Char → Option (List Char × List Char)
  | '0' :: rest => some (['0'], rest)
  | text => digitRun? Numeral.isDigit text

def power? (text : List Char) : Option (Int × List Char) :=
  match text with
  | [] => some (0, [])
  | c :: rest =>
    if c = 'e' ∨ c = 'E' then do
      let (isNegative, rest) := Double.sign rest
      let (digits, rest) ← digitRun? Numeral.isDigit rest
      let n := Numeral.value digits
      return (if isNegative then -(n : Int) else n, rest)
    else some (0, text)

/-- A double from its digits, unless it is too large. Large negative ones are infinite. -/
def float? (isNegative : Bool) (whole fraction : List Char) (power : Int) : Option Value :=
  let digits := Numeral.value (whole ++ fraction)
  let x := Double.ofDecimal isNegative digits (power - fraction.length)
  if x.isInfinite ∧ !isNegative then none else some (.float x)

def integer? (n : Int) : Option Value :=
  if Int64.minValue.toInt ≤ n ∧ n ≤ Int64.maxValue.toInt then some (.integer n) else none

def decimal? (text : List Char) : Option (Value × List Char) := do
  let (isNegative, text) := Double.sign text
  match text with
  | 'i' :: 'n' :: 'f' :: rest => return (.float (.infinity isNegative), rest)
  | 'n' :: 'a' :: 'n' :: rest => return (.float (.nan isNegative), rest)
  | text =>
    let (whole, rest) ← wholeDigits? text
    match rest with
    | '.' :: rest =>
      let (fraction, rest) ← digitRun? Numeral.isDigit rest
      let (power, rest) ← power? rest
      return (← float? isNegative whole fraction power, rest)
    | 'e' :: _ | 'E' :: _ =>
      let (power, rest) ← power? rest
      return (← float? isNegative whole [] power, rest)
    | rest =>
      let n := Numeral.value whole
      return (← integer? (if isNegative then -(n : Int) else n), rest)

def inBase? (base : Nat) (digit? : Char → Option Nat) (text : List Char) :
    Option (Value × List Char) := do
  let (digits, rest) ← digitRun? (fun c => (digit? c).any (· < base)) text
  let n := digits.foldl (fun n c => n * base + (digit? c).getD 0) 0
  return (← integer? n, rest)

def number? : List Char → Option (Value × List Char)
  | '0' :: 'x' :: rest => inBase? 16 Numeral.hexDigit? rest
  | '0' :: 'o' :: rest => inBase? 8 Numeral.hexDigit? rest
  | '0' :: 'b' :: rest => inBase? 2 Numeral.hexDigit? rest
  | text => decimal? text

def pair? (mark : Char) : List Char → Option (Nat × List Char)
  | c :: rest => if c = mark then Numeral.takeExact? 2 rest else none
  | [] => none

def date? (text : List Char) : Option (String × List Char) := do
  let (year, rest) ← Numeral.takeExact? 4 text
  let (month, rest) ← pair? '-' rest
  let (day, rest) ← pair? '-' rest
  if (Date.mk year month day).Valid then
    return (Numeral.padded 4 year ++ "-" ++ Numeral.padded 2 month ++ "-" ++ Numeral.padded 2 day,
      rest)
  else none

/-- A fraction of a second without the zeros at its end, of nine digits at most. -/
def fractionText (digits : List Char) : String :=
  match ((digits.take 9).reverse.dropWhile (· = '0')).reverse with
  | [] => ""
  | digits => String.ofList ('.' :: digits)

def fraction? : List Char → Option (String × List Char)
  | '.' :: text =>
    match text.takeWhile Numeral.isDigit with
    | [] => none
    | digits => some (fractionText digits, text.drop digits.length)
  | text => some ("", text)

def time? (text : List Char) : Option (String × List Char) := do
  let (hour, rest) ← Numeral.takeExact? 2 text
  let (minute, rest) ← pair? ':' rest
  let (second, rest) ← pair? ':' rest
  let (fraction, rest) ← fraction? rest
  if hour < 24 ∧ minute < 60 ∧ second ≤ 60 then
    return (Numeral.padded 2 hour ++ ":" ++ Numeral.padded 2 minute ++ ":" ++
      Numeral.padded 2 second ++ fraction, rest)
  else none

def zone? : List Char → Option (String × List Char)
  | [] => none
  | c :: text => do
    if c = 'Z' ∨ c = 'z' then return ("Z", text)
    if c ≠ '+' ∧ c ≠ '-' then none
    let (hour, rest) ← Numeral.takeExact? 2 text
    let (minute, rest) ← pair? ':' rest
    if hour < 24 ∧ minute < 60 then
      return (c.toString ++ Numeral.padded 2 hour ++ ":" ++ Numeral.padded 2 minute, rest)
    else none

def timeOfDate? : List Char → Option (String × List Char)
  | c :: rest => if c = 'T' ∨ c = 't' ∨ c = ' ' then time? rest else none
  | [] => none

/-- A date, a time, or a date with a time and possibly a distance from UTC. -/
def moment? (text : List Char) : Option (Value × List Char) :=
  match date? text with
  | none => (time? text).map fun (time, rest) => (.moment time, rest)
  | some (date, rest) =>
    match timeOfDate? rest with
    | none => some (.moment date, rest)
    | some (time, rest) =>
      match zone? rest with
      | none => some (.moment (date ++ "T" ++ time), rest)
      | some (zone, rest) => some (.moment (date ++ "T" ++ time ++ zone), rest)

def character? (n : Nat) : Option Char := if n.isValidChar then some (Char.ofNat n) else none

def hexNumber? (digits : List Char) : Option Nat :=
  digits.foldlM (fun n c => (Numeral.hexDigit? c).map (n * 16 + ·)) 0

def escaped? : Char → Option Char
  | 'b' => some '\x08'
  | 't' => some '\t'
  | 'n' => some '\n'
  | 'f' => some '\x0c'
  | 'r' => some '\r'
  | '"' => some '"'
  | '\\' => some '\\'
  | _ => none

def escape? : List Char → Option (Char × List Char)
  | [] => none
  | c :: rest => do
    let count := if c = 'u' then 4 else if c = 'U' then 8 else 0
    if count = 0 then return (← escaped? c, rest)
    let digits := rest.take count
    if digits.length ≠ count then none
    return (← character? (← hexNumber? digits), rest.drop count)

/-- A text up to its closing quote. The first argument bounds the number of characters. -/
def basic? : Nat → List Char → Option (List Char × List Char)
  | 0, _ => none
  | _, [] => none
  | fuel + 1, c :: rest =>
    if c = '"' then some ([], rest)
    else if c = '\\' then do
      let (c, rest) ← escape? rest
      let (text, rest) ← basic? fuel rest
      return (c :: text, rest)
    else if isPlain c then (basic? fuel rest).map fun (text, rest) => (c :: text, rest)
    else none

def literal? : List Char → Option (List Char × List Char)
  | [] => none
  | c :: rest =>
    if c = '\'' then some ([], rest)
    else if isPlain c then (literal? rest).map fun (text, rest) => (c :: text, rest)
    else none

def lineBreak? : List Char → Option (List Char)
  | '\n' :: rest => some rest
  | '\r' :: '\n' :: rest => some rest
  | _ => none

def skipBlankLines : Nat → List Char → List Char
  | 0, text => text
  | fuel + 1, text =>
    match text with
    | ' ' :: rest | '\t' :: rest => skipBlankLines fuel rest
    | text => match lineBreak? text with
      | some rest => skipBlankLines fuel rest
      | none => text

/-- The text behind a backslash at the end of a line: blanks and breaks after it do not count. -/
def continued? (text : List Char) : Option (List Char) :=
  (lineBreak? (text.dropWhile isBlank)).map fun rest => skipBlankLines rest.length rest

/-- Three closing quotes, behind up to two that belong to the text. -/
def closing? (quote : Char) (text : List Char) : Option (List Char × List Char) :=
  let run := (text.takeWhile (· = quote)).length
  if run < 3 then none
  else
    let own := min (run - 3) 2
    some (List.replicate own quote, text.drop (own + 3))

def multilineBasic? : Nat → List Char → Option (List Char × List Char)
  | 0, _ => none
  | _, [] => none
  | fuel + 1, c :: rest =>
    match closing? '"' (c :: rest) with
    | some closed => some closed
    | none =>
      if c = '\\' then
        match continued? rest with
        | some rest => multilineBasic? fuel rest
        | none => do
          let (c, rest) ← escape? rest
          let (text, rest) ← multilineBasic? fuel rest
          return (c :: text, rest)
      else match lineBreak? (c :: rest) with
        | some rest => (multilineBasic? fuel rest).map fun (text, rest) => ('\n' :: text, rest)
        | none =>
          if isPlain c then (multilineBasic? fuel rest).map fun (text, rest) => (c :: text, rest)
          else none

def multilineLiteral? : Nat → List Char → Option (List Char × List Char)
  | 0, _ => none
  | _, [] => none
  | fuel + 1, c :: rest =>
    match closing? '\'' (c :: rest) with
    | some closed => some closed
    | none =>
      match lineBreak? (c :: rest) with
      | some rest => (multilineLiteral? fuel rest).map fun (text, rest) => ('\n' :: text, rest)
      | none =>
        if isPlain c then (multilineLiteral? fuel rest).map fun (text, rest) => (c :: text, rest)
        else none

/-- The text behind three opening quotes: a line break right after them does not count. -/
def afterOpening (text : List Char) : List Char := (lineBreak? text).getD text

def string? : List Char → Option (List Char × List Char)
  | '"' :: '"' :: '"' :: rest => multilineBasic? (rest.length + 1) (afterOpening rest)
  | '"' :: rest => basic? (rest.length + 1) rest
  | '\'' :: '\'' :: '\'' :: rest => multilineLiteral? (rest.length + 1) (afterOpening rest)
  | '\'' :: rest => literal? rest
  | _ => none

end SegmentRules.Toml
