/-! # Sets of characters given by ranges -/
namespace SegmentRules.Text

abbrev Ranges := List (Nat × Nat)

def Ranges.contains (ranges : Ranges) (code : Nat) : Bool :=
  ranges.any fun range => range.1 ≤ code && code ≤ range.2

end SegmentRules.Text
