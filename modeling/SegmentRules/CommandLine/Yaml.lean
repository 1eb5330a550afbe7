import SegmentRules.Double.Reader
import SegmentRules.Json.Writer
import SegmentRules.Text.Blank
import SegmentRules.Text.Parts
import SegmentRules.Text.Printable

/-! # Values as YAML blocks -/
namespace SegmentRules.Yaml

/-- Texts that would read as null or as a truth value. -/
def words : List String :=
  ["", "~", "null", "Null", "NULL", "true", "True", "TRUE", "false", "False", "FALSE",
   ".inf", ".Inf", ".INF", "+.inf", "-.inf", ".nan", ".NaN", ".NAN", "---", "..."]

def isNumber (text : List Char) : Bool :=
  text.any Numeral.isDigit && ((Double.read text).toBool ||
    [['0', 'x'], ['0', 'o'], ['0', 'b']].any (·.isPrefixOf text))

def marks : List Char :=
  ['-', '?', ':', ',', '[', ']', '\x7b', '\x7d', '#', '&', '*', '!', '|', '>', '\'', '"', '%', '@',
   '\x60']

/-- Whether a text starts like something else than a text. A dash, colon or question mark does so
in front of a blank. -/
def startsMarked : List Char → Bool
  | [] => false
  | c :: rest =>
    if c = '-' ∨ c = '?' ∨ c = ':' then rest.head?.all Text.isBlank else marks.contains c

def isPlain (text : List Char) : Bool :=
  !words.contains (String.ofList text) && !isNumber text && !startsMarked text &&
    !text.head?.any Text.isBlank && !text.getLast?.any Text.isBlank &&
    text.getLast? != some ':' && !Text.occursIn [':', ' '] text && !Text.occursIn [' ', '#'] text

/-- A text, in quotes if it would read as something else. -/
def textOf (text : String) : String :=
  let chars := text.toList
  if !chars.all fun c => isPrintable c then Json.renderText text
  else if isPlain chars then text
  else "'" ++ String.ofList (chars.flatMap fun c => if c = '\'' then ['\'', '\''] else [c]) ++ "'"
where
  isPrintable (c : Char) : Bool := !Text.unprintableRanges.contains c.toNat

def indent (lines : List String) : List String := lines.map ("  " ++ ·)

def item : List String → List String
  | [] => []
  | line :: rest => ("- " ++ line) :: indent rest

mutual

/-- The lines of a value at the left margin. Items of a list are not indented below its key. -/
def lines : Json → List String
  | .null => ["null"]
  | .bool value => [if value then "true" else "false"]
  | .integer value => [Numeral.signed value]
  | .double value => [Json.renderDouble value]
  | .string value => [textOf value]
  | .array [] => ["[]"]
  | .array items => itemLines items
  | .object [] => ["\x7b\x7d"]
  | .object fields => fieldLines fields
  | .unreadable => ["null"]

def itemLines : List Json → List String
  | [] => []
  | value :: rest => item (lines value) ++ itemLines rest

def fieldLines : List (String × Json) → List String
  | [] => []
  | (key, value) :: rest =>
    (match value with
      | .object (field :: fields) => (textOf key ++ ":") :: indent (fieldLines (field :: fields))
      | .array (value :: values) => (textOf key ++ ":") :: itemLines (value :: values)
      | value => (lines value).map ((textOf key ++ ": ") ++ ·)) ++ fieldLines rest

end

def render (value : Json) : String := String.join ((lines value).map (· ++ "\n"))

end SegmentRules.Yaml
