import SegmentRules.Json.Decode

/-! # Subscription statuses -/
namespace SegmentRules

/-- The statuses offered as conditions. A stored row may hold any other text. -/
inductive Status
  | active
  | expired
  | cancelled
  | pending
  | failing
  | completed
  deriving DecidableEq, Repr

namespace Status

def all : List Status := [.active, .expired, .cancelled, .pending, .failing, .completed]

def name : Status → String
  | .active => "active"
  | .expired => "expired"
  | .cancelled => "cancelled"
  | .pending => "pending"
  | .failing => "failing"
  | .completed => "completed"

def label : Status → String
  | .active => "Active"
  | .expired => "Expired"
  | .cancelled => "Cancelled"
  | .pending => "Pending"
  | .failing => "Failing"
  | .completed => "Completed"

def ofName? (text : String) : Option Status := all.find? (·.name == text)

def toJson (status : Status) : Json := .string status.name

def ofJson? (value : Json) : Option Status := value.choice?.bind ofName?

end Status
end SegmentRules
