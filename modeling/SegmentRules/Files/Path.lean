import SegmentRules.Text.Parts

/-! # Paths -/
namespace SegmentRules.Files

inductive Part
  | up
  | name (text : String)
  deriving DecidableEq, Repr

/-- How a path ends. Behind a slash or a dot it means a directory. -/
inductive Ending
  | plain
  | slash
  | dot
  deriving DecidableEq, Repr

/-- A path from the working directory, as the texts between its slashes. -/
structure Path where
  texts : List String
  deriving DecidableEq, Repr

/-- The step a text between slashes stands for; nothing and a dot stand for none. -/
def Part.ofText? (text : String) : Option Part :=
  if text = "" ∨ text = "." then none
  else if text = ".." then some .up
  else some (.name text)

def Ending.ofTexts (texts : List String) : Ending :=
  if (texts.dropWhile (· == "")).head? = some "." then .dot
  else if texts.head? = some "" then .slash
  else .plain

namespace Path

def ofText (text : String) : Path := ⟨(Text.split '/' text.toList).map String.ofList⟩

def parts (path : Path) : List Part := path.texts.filterMap Part.ofText?

def ending (path : Path) : Ending := .ofTexts path.texts.reverse

def size (path : Path) : Nat :=
  (path.texts.map String.utf8ByteSize).foldr (· + ·) 0 + (path.texts.length - 1)

/-- Paths have at most 4095 bytes, however few steps they are. -/
def fits (path : Path) : Bool := path.size ≤ 4095

/-- The texts of the directory a path leads into, from the last one back. -/
def above (path : Path) : List String :=
  (path.texts.reverse.dropWhile fun text => (Part.ofText? text).isNone).drop 1

end Path
end SegmentRules.Files
