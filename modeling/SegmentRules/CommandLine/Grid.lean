/-! # Tables of text -/
namespace SegmentRules.Grid

def widths : List (List String) → List Nat
  | [] => []
  | [row] => row.map String.length
  | row :: rest => List.zipWith max (row.map String.length) (widths rest)

def rule (widths : List Nat) : String :=
  String.join (widths.map fun width => "+" ++ String.ofList (List.replicate (width + 2) '-')) ++ "+"

/-- A cell with one blank on each side, filled up to its width. -/
def cell (width : Nat) (text : String) : String :=
  "| " ++ text ++ String.ofList (List.replicate (width - text.length + 1) ' ')

def line (widths : List Nat) (row : List String) : String :=
  String.join (List.zipWith cell widths row) ++ "|"

/-- Rows between rules, in columns as wide as their widest cells. -/
def render (rows : List (List String)) : String :=
  let columns := widths rows
  String.intercalate "\n" (rule columns :: rows.flatMap fun row => [line columns row, rule columns])

end SegmentRules.Grid
