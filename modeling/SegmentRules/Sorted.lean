/-! # Sorted lists without repetitions -/
namespace SegmentRules.Sorted

/-- Put an element into a sorted list, unless it is there. -/
def insert [DecidableEq α] (before : α → α → Bool) (x : α) : List α → List α
  | [] => [x]
  | y :: rest =>
    if before x y then x :: y :: rest
    else if x = y then y :: rest
    else y :: insert before x rest

def ofList [DecidableEq α] (before : α → α → Bool) (list : List α) : List α :=
  list.foldl (fun sorted x => insert before x sorted) []

/-- Put a value under a key into pairs sorted by key; an earlier value under the key is lost. -/
def insertPair [DecidableEq κ] (before : κ → κ → Bool) (key : κ) (value : α) :
    List (κ × α) → List (κ × α)
  | [] => [(key, value)]
  | (k, v) :: rest =>
    if before key k then (key, value) :: (k, v) :: rest
    else if key = k then (key, value) :: rest
    else (k, v) :: insertPair before key value rest

/-- The order of texts by code point. -/
def textBefore (a b : String) : Bool := a < b

end SegmentRules.Sorted
