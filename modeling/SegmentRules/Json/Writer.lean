import SegmentRules.Json.Basic
import SegmentRules.Double.Style

/-! # Writing JSON text -/
namespace SegmentRules.Json

/-- JSON numbers are positional from 10^-5 on and below 10^16, and keep their point. -/
def numberStyle : Double.Style := ⟨-5, 15, true, true, .even, "null", false⟩

/-- A character of a written text. Only quotes, backslashes and control characters are escaped. -/
def escape (c : Char) : List Char :=
  if c = '"' ∨ c = '\\' then ['\\', c]
  else if c = '\x08' then ['\\', 'b']
  else if c = '\x0c' then ['\\', 'f']
  else if c = '\n' then ['\\', 'n']
  else if c = '\r' then ['\\', 'r']
  else if c = '\t' then ['\\', 't']
  else if c.toNat < 0x20 then
    ['\\', 'u', '0', '0', Numeral.digitChar (c.toNat / 16), Numeral.digitChar (c.toNat % 16)]
  else [c]

def renderText (text : String) : String :=
  String.ofList ('"' :: text.toList.flatMap escape ++ ['"'])

/-- A double; what is no number is written as null. -/
def renderDouble (x : Double) : String :=
  if x.isFinite then x.text numberStyle else "null"

mutual

def render : Json → String
  | .null => "null"
  | .bool value => if value then "true" else "false"
  | .integer value => Numeral.signed value
  | .double value => renderDouble value
  | .string value => renderText value
  | .array items => "[" ++ String.intercalate "," (renderItems items) ++ "]"
  | .object fields => "\x7b" ++ String.intercalate "," (renderFields fields) ++ "\x7d"
  | .unreadable => "null"

def renderItems : List Json → List String
  | [] => []
  | item :: rest => render item :: renderItems rest

def renderFields : List (String × Json) → List String
  | [] => []
  | (key, value) :: rest => (renderText key ++ ":" ++ render value) :: renderFields rest

end

def lineBreak (level : Nat) : String := "\n" ++ String.ofList (List.replicate (2 * level) ' ')

def block (opening closing : String) (level : Nat) (parts : List String) : String :=
  if parts.isEmpty then opening ++ closing
  else opening ++ lineBreak (level + 1) ++
    String.intercalate ("," ++ lineBreak (level + 1)) parts ++ lineBreak level ++ closing

mutual

def renderPretty (level : Nat) : Json → String
  | .array items => block "[" "]" level (renderPrettyItems (level + 1) items)
  | .object fields => block "\x7b" "\x7d" level (renderPrettyFields (level + 1) fields)
  | .null => "null"
  | .bool value => if value then "true" else "false"
  | .integer value => Numeral.signed value
  | .double value => renderDouble value
  | .string value => renderText value
  | .unreadable => "null"

def renderPrettyItems (level : Nat) : List Json → List String
  | [] => []
  | item :: rest => renderPretty level item :: renderPrettyItems level rest

def renderPrettyFields (level : Nat) : List (String × Json) → List String
  | [] => []
  | (key, value) :: rest =>
    (renderText key ++ ": " ++ renderPretty level value) :: renderPrettyFields level rest

end

end SegmentRules.Json
