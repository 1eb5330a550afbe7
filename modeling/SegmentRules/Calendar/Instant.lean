import SegmentRules.Calendar.Timestamp

/-! # Points in time on the universal clock -/
namespace SegmentRules

/-- A point in time, by the clock of UTC. -/
structure Instant where
  utc : Timestamp
  deriving DecidableEq, Repr

namespace Instant

/-- The clock of a site that is ahead of UTC by an offset in seconds, were the calendar endless. -/
def onSite (now : Instant) (offset : Int) : Timestamp := now.utc.shift offset

/-- The time of a site. On the first and the last day by UTC the calendar may have none. -/
def siteTime? (now : Instant) (offset : Int) : Option Timestamp :=
  if (now.onSite offset).InCalendar then some (now.onSite offset) else none

def takePair? (mark : Char) : List Char → Option (Nat × List Char)
  | [] => none
  | c :: rest => if c = mark then Numeral.takeExact? 2 rest else none

def takeHour? : List Char → Option (Nat × List Char)
  | [] => none
  | c :: rest => if c = 'T' ∨ c = 't' ∨ c = ' ' then Numeral.takeExact? 2 rest else none

/-- The distance from UTC in seconds: `Z`, or a sign, hours and minutes below a day. -/
def offset? : List Char → Option Int
  | ['Z'] => some 0
  | ['z'] => some 0
  | sign :: rest => do
    let ahead ← if sign = '+' then some true
      else if sign = '-' ∨ sign = '−' then some false else none
    let (hours, rest) ← Numeral.takeExact? 2 rest
    let (minutes, rest) ← takePair? ':' rest
    if rest.isEmpty ∧ hours < 24 ∧ minutes < 60 then
      let seconds : Int := hours * 3600 + minutes * 60
      return if ahead then seconds else -seconds
    else none
  | [] => none

def ofText? (text : String) : Option Instant := do
  let (year, rest) ← Numeral.takeExact? 4 text.toList
  let (month, rest) ← takePair? '-' rest
  let (day, rest) ← takePair? '-' rest
  let (hour, rest) ← takeHour? rest
  let (minute, rest) ← takePair? ':' rest
  let (second, rest) ← takePair? ':' rest
  let (nanos, rest) ← Timestamp.readFraction? rest
  let offset ← offset? rest
  let local? := Timestamp.ofReading? ⟨year, month, day, hour, minute, second, nanos⟩
  return ⟨(← local?).shift (-offset)⟩

end Instant
end SegmentRules
