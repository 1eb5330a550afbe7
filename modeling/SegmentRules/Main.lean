import SegmentRules.CommandLine.Commands
import Std.Time.DateTime.Timestamp

/-! # The program

Looks at the one file that a command is about and at the directories on the way there, runs the
command, and carries out what it changed. -/
namespace SegmentRules.Program

open CommandLine Files

/-- The seconds from the start of year zero to that of 1970. -/
def unixEpoch : Int := Calendar.daysBeforeYear 1970 * 86400

def clock : IO Instant := do
  let now ← Std.Time.Timestamp.now
  let nanos := now.toNanosecondsSinceUnixEpoch.toInt
  return ⟨⟨unixEpoch + nanos / 1000000000, (nanos % 1000000000).toNat⟩⟩

def observe (text : String) : IO (Option Entry) := do
  try
    return some (.file (← IO.FS.readFile text))
  catch error =>
    match error with
    | .inappropriateType _ code _ => return if code = 21 then some .directory else none
    | _ => return none

/-- The places on the way along a path, with the texts that lead there. -/
def stations (text : String) : List (Place × String) :=
  let walk := (Path.ofText text).texts.foldl (fun (place, before, found) text =>
    let path := before ++ text
    match Part.ofText? text with
    | none => (place, path ++ "/", found)
    | some .up => (place.dropLast, path ++ "/", found)
    | some (.name name) => (place ++ [name], path ++ "/", found ++ [(place ++ [name], path)]))
    (([] : Place), "", ([] : List (Place × String)))
  walk.2.2

/-- Do at a place what was done to it. -/
def carryOut (text : String) (old new : Option Entry) : IO Unit := do
  if old = new then return
  match new with
  | some (.file content) => IO.FS.writeFile text content
  | some .directory => IO.FS.createDir text
  | none => return

def main (arguments : List String) : IO UInt32 := do
  let home := (← IO.getEnv "HOME").getD ""
  let environment ← IO.getEnv "SASE_RULES_CONFIG"
  let path := match parse arguments with
    | .ok invocation => invocation.path home environment
    | .error _ => standardPath home
  let mut disk := Disk.empty
  for (place, text) in stations path do
    if let some entry ← observe text then disk := disk.put place entry
  let outcome := invoke (← clock) home environment disk arguments
  for (place, text) in stations path do
    carryOut text (disk.entry? place) (outcome.disk.entry? place)
  IO.print outcome.stdout
  IO.eprint outcome.stderr
  return UInt32.ofNat outcome.code

end SegmentRules.Program

def main (arguments : List String) : IO UInt32 := SegmentRules.Program.main arguments
