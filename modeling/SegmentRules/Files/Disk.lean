import SegmentRules.Files.Fault
import SegmentRules.Files.Path

/-! # Files and directories -/
namespace SegmentRules.Files

inductive Entry
  | file (text : String)
  | directory
  deriving DecidableEq, Repr

/-- A place is given by the names that lead there from the working directory. -/
abbrev Place := List String

/-- What stands at places. The working directory is always there. -/
structure Disk where
  entries : List (Place × Entry)
  deriving DecidableEq, Repr

/-- Names have at most 255 bytes. -/
def isName (text : String) : Bool := text.utf8ByteSize ≤ 255

def absence (place : Place) : Fault := if place.all isName then .notFound else .nameTooLong

namespace Disk

def empty : Disk := ⟨[]⟩

def entry? (disk : Disk) (place : Place) : Option Entry :=
  if place = [] then some .directory else disk.entries.lookup place

def put (disk : Disk) (place : Place) (entry : Entry) : Disk :=
  ⟨(place, entry) :: disk.entries.filter (·.1 != place)⟩

def create (disk : Disk) (place : Place) (entry : Entry) : Except Fault Disk :=
  if place.all isName then .ok (disk.put place entry) else .error .nameTooLong

/-- The place at the end of steps, of which all but the last lead through directories. -/
def follow (disk : Disk) : Place → List Part → Except Fault Place
  | place, [] => .ok place
  | place, .up :: rest => disk.follow place.dropLast rest
  | place, .name text :: rest =>
    if rest.isEmpty then .ok (place ++ [text])
    else match disk.entry? (place ++ [text]) with
      | some .directory => disk.follow (place ++ [text]) rest
      | some (.file _) => .error .notDirectory
      | none => .error (absence (place ++ [text]))

def locate (disk : Disk) (path : Path) : Except Fault Place :=
  if path.fits then disk.follow [] path.parts else .error .nameTooLong

/-- What a path leads to. A file is no directory, so nothing stands behind its slash. -/
def at? (disk : Disk) (path : Path) : Option Entry :=
  match disk.locate path with
  | .error _ => none
  | .ok place =>
    match disk.entry? place with
    | some (.file text) => if path.ending = .plain then some (.file text) else none
    | entry => entry

def text? (disk : Disk) (path : Path) : Option String :=
  match disk.at? path with
  | some (.file text) => some text
  | _ => none

def isDirectory (disk : Disk) (path : Path) : Bool := disk.at? path = some .directory

def makeDirectory (disk : Disk) (path : Path) : Except Fault Disk :=
  match disk.locate path with
  | .error fault => .error fault
  | .ok place =>
    match disk.entry? place with
    | some _ => .error .alreadyExists
    | none => disk.create place .directory

def ensureDirectory (disk : Disk) (path : Path) : Except Fault Disk :=
  match disk.makeDirectory path with
  | .ok disk => .ok disk
  | .error fault => if disk.isDirectory path then .ok disk else .error fault

/-- A directory, given by the texts of its path from the last one back, and the directories above.
Those that were made stay if a later one is refused. -/
def ensureDirectories (disk : Disk) : List String → Except Fault Unit × Disk
  | [] => (.ok (), disk)
  | text :: above =>
    if (Part.ofText? text).isNone then disk.ensureDirectories above else
    let path : Path := ⟨(text :: above).reverse⟩
    match disk.ensureDirectory path with
    | .ok disk => (.ok (), disk)
    | .error .notFound =>
      match disk.ensureDirectories above with
      | (.error fault, disk) => (.error fault, disk)
      | (.ok (), disk) =>
        match disk.ensureDirectory path with
        | .ok disk => (.ok (), disk)
        | .error fault => (.error fault, disk)
    | .error fault => (.error fault, disk)

def write (disk : Disk) (path : Path) (text : String) : Except Fault Disk :=
  match disk.locate path with
  | .error fault => .error fault
  | .ok place =>
    match disk.entry? place, path.ending with
    | some .directory, _ => .error .isDirectory
    | _, .slash => .error .isDirectory
    | some (.file _), .dot => .error .notDirectory
    | some (.file _), .plain => .ok (disk.put place (.file text))
    | none, .dot => .error (absence place)
    | none, .plain => disk.create place (.file text)

end Disk
end SegmentRules.Files
