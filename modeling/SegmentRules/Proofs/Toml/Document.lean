import SegmentRules.Toml.Reader

/-! # Documents as characters

Readers look at the characters of a document, which are those of its lines. -/
namespace SegmentRules.Toml

/-- The characters of a line with a key and its value. -/
def lineChars (field : String × Value) : List Char :=
  (keyText field.1).toList ++ " = ".toList ++ field.2.text.toList ++ ['\n']

def isSection (field : String × Value) : Bool :=
  match field.2 with
  | .table _ => true
  | _ => false

/-- The characters of a section with its header. -/
def sectionChars (field : String × Value) : List Char :=
  ['\n', '['] ++ (keyText field.1).toList ++ [']', '\n'] ++
    match field.2 with
    | .table entries => entries.flatMap lineChars
    | _ => []

def documentChars (fields : List (String × Value)) : List Char :=
  (fields.filter fun field => !isSection field).flatMap lineChars ++
    (fields.filter isSection).flatMap sectionChars

theorem entryLine_toList (key : String) (value : Value) :
    (entryLine key value).toList = lineChars (key, value) := by
  simp [entryLine, lineChars]

theorem documentText_toList (fields : List (String × Value)) :
    (documentText fields).toList = documentChars fields := by
  simp only [documentText, documentChars, String.toList_append, String.toList_join,
    List.flatMap_map, entryLine_toList]
  congr 1
  refine congrArg (List.flatMap · _) (funext fun field => ?_)
  rcases field with ⟨key, value⟩
  cases value <;>
    simp [sectionChars, String.toList_join, List.flatMap_map, entryLine_toList]

/-- The table that the characters of a document denote. -/
def ofChars? (chars : List Char) : Option Value :=
  let chars := afterByteOrderMark chars
  (lines? (chars.length + 1) [] [] chars).map fun root => .table (fieldsToValues root)

theorem ofText?_eq (text : String) : ofText? text = ofChars? text.toList := rfl

end SegmentRules.Toml
