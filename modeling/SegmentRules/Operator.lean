import SegmentRules.Json.Decode

/-! # Membership operators -/
namespace SegmentRules

/-- `member` keeps the members of a segment, `nonMember` all others. -/
inductive Operator
  | member
  | nonMember
  deriving DecidableEq, Repr

namespace Operator

def all : List Operator := [.member, .nonMember]

def name : Operator → String
  | .member => "in"
  | .nonMember => "not_in"

def ofName? (text : String) : Option Operator := all.find? (·.name == text)

def passes : Operator → Bool → Bool
  | .member, isMember => isMember
  | .nonMember, isMember => !isMember

def toJson (operator : Operator) : Json := .string operator.name

def ofJson? (value : Json) : Option Operator := value.choice?.bind ofName?

end Operator
end SegmentRules
