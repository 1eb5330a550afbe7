import SegmentRules.Files.Disk
import SegmentRules.Settings.Document

/-! # Settings in files -/
namespace SegmentRules.Settings

open Files (Disk Path)

/-- The settings of a file; the standard ones if there is none. -/
def load (disk : Disk) (path : String) : Except RuleError Settings :=
  match disk.at? (.ofText path) with
  | some (.file text) => ofText text
  | some .directory => .error (.settings (.cannotRead path .isDirectory))
  | none => .ok standard

def writeText (text : String) (disk : Disk) (path : Path) : Except RuleError Unit × Disk :=
  match disk.write path text with
  | .error fault => (.error (.settings (.cannotWrite fault)), disk)
  | .ok disk => (.ok (), disk)

/-- Write valid settings to a file, and make its directory. The file is left as it is unless all of
it can be written. -/
def save (settings : Settings) (disk : Disk) (path : String) : Except RuleError Unit × Disk :=
  let path := Path.ofText path
  match settings.validate with
  | .error error => (.error error, disk)
  | .ok () =>
    match disk.ensureDirectories path.above with
    | (.error fault, disk) => (.error (.settings (.cannotWrite fault)), disk)
    | (.ok (), disk) =>
      match settings.toText with
      | .error error => (.error error, disk)
      | .ok text => writeText text disk path

end SegmentRules.Settings
