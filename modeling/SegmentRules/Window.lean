import SegmentRules.Calendar.Instant
import SegmentRules.Error
import SegmentRules.Json.Decode

/-! # Expiration windows -/
namespace SegmentRules

/-- An inclusive range of times on the site's clock. -/
structure Window where
  start : Timestamp
  finish : Timestamp
  deriving DecidableEq, Repr

namespace Window

/-- From now on the site's clock to the last second of the day that is `days` days ahead. -/
def endingInDays (now : Instant) (days : UInt32) (offset : Int) : Except RuleError Window :=
  match now.siteTime? offset with
  | none => .error .panicked
  | some start =>
    let day := start.dayNumber + days.toNat
    if day ≤ Calendar.lastDayNumber then .ok ⟨start, .endOfDay day⟩
    else .error (.settings (.windowOutOfRange days))

def contains (window : Window) (t : Timestamp) : Bool :=
  window.start.le t && t.le window.finish

def timestampOfJson? (value : Json) : Option Timestamp := value.string?.bind Timestamp.ofText?

def toJson (window : Window) : Json :=
  .object [("from", .string window.start.text), ("to", .string window.finish.text)]

def ofJson? (value : Json) : Option Window := do
  let record ← value.record? ["from", "to"]
  return ⟨← record.required? "from" timestampOfJson?, ← record.required? "to" timestampOfJson?⟩

end Window
end SegmentRules
