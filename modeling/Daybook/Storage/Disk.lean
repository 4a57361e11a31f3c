import Daybook.Storage.Device
import Daybook.Storage.Folder

namespace Daybook

/-!
# Saving to a folder

A file is saved in two steps: the text is written to a file of its own in the
same folder, and that file takes the place of the old one.  A second step that is
refused because the file is in use is tried again, three times in all; whenever
saving fails the old file is still there.
-/

/-- A folder and the number of times that taking a file's place is still refused. -/
structure Disk where
  folder : Folder
  refusals : Nat := 0
  deriving DecidableEq, Repr

namespace Disk

/-- How often taking a file's place is tried. -/
def attemptLimit : Nat := 3

def refusal : Text := "locked".toList

/-- Puts the bytes in the place of a file, in at most so many attempts. -/
def replace (disk : Disk) (path : Path) (bytes : Bytes) : Nat → Except Text Unit × Disk
  | 0 => (.error refusal, disk)
  | attempts + 1 =>
    match disk.refusals with
    | refusals + 1 => replace { disk with refusals } path bytes attempts
    | 0 =>
      match disk.folder.write path bytes with
      | .ok folder => (.ok (), { disk with folder })
      | .error fault => (.error (fault.message path), disk)
termination_by structural attempts => attempts

def folderOf (path : Path) : Path :=
  { path with parts := path.parts.dropLast }

/-- Why the first step fails, if it does. -/
def obstacle? (disk : Disk) (path : Path) : Option AccessFault :=
  match disk.folder.find (folderOf path) with
  | .ok .folder => none
  | .ok (.file ..) => some .notFolder
  | .ok (.free _) => some .missing
  | .error fault => some fault

def save (disk : Disk) (path : Path) (text : Text) : Except WriteFault Unit × Disk :=
  match disk.obstacle? path with
  | some fault => (.error (.ofReason path.toText (fault.message path)), disk)
  | none =>
    match disk.replace path (Encoding.encode text) attemptLimit with
    | (.ok (), after) => (.ok (), after)
    | (.error reason, after) => (.error (.ofReason path.toText reason), after)

def device (path : Path) : Device Disk where
  target := path.toText
  write disk text := disk.save path text

end Disk

end Daybook
