import Daybook.Storage.Encoding
import Daybook.Storage.Path
import Daybook.Table

namespace Daybook

/-!
# Folders

A folder holds files and folders.  It is kept flat: every file and every folder
that was made has a place, which is the list of names that leads to it, and the
folders on the way to a place are there as well.
-/

/-- Why a file cannot be read or written: nothing or a folder is there, a file is on the way, or
access is refused. -/
inductive AccessFault where
  | missing
  | isFolder
  | notFolder
  | denied
  deriving DecidableEq, Repr

def AccessFault.message (fault : AccessFault) (path : Path) : Text :=
  let reason :=
    match fault with
    | .missing => "[Errno 2] No such file or directory: "
    | .isFolder => "[Errno 21] Is a directory: "
    | .notFolder => "[Errno 20] Not a directory: "
    | .denied => "[Errno 13] Permission denied: "
  reason.toList ++ Text.quoted path.toText

/-- The names that lead to a file or a folder. -/
abbrev Place := List Text

/-- The content of a folder: the files at any depth, and folders that are there even if no file is
in them. -/
structure Folder where
  files : Table Place Bytes := []
  folders : List Place := []
  deriving DecidableEq, Repr

namespace Folder

def isFolderAt (folder : Folder) (place : Place) : Bool :=
  place.isEmpty || folder.folders.any (place.isPrefixOf ·) ||
    folder.files.any fun entry => place.isPrefixOf entry.1 && place != entry.1

/-- What a path leads to: a file, a folder, or nothing in a folder that is there. -/
inductive Found where
  | file (place : Place) (bytes : Bytes)
  | folder
  | free (place : Place)
  deriving Repr

/-- Follows names from the place of a folder.  What lies above the whole folder
is not known. -/
def follow (folder : Folder) : Place → List Text → Except AccessFault Found
  | _, [] => .ok .folder
  | place, name :: rest =>
    if name == Path.above then
      if place.isEmpty then .error .missing else folder.follow place.dropLast rest
    else
      let next := place ++ [name]
      match folder.files.get? next with
      | some bytes => if rest.isEmpty then .ok (.file next bytes) else .error .notFolder
      | none =>
        if folder.isFolderAt next then folder.follow next rest
        else if rest.isEmpty then .ok (.free next)
        else .error .missing

/-- What a path leads to.  Of the paths that do not begin in the folder only the
outermost one is known to lead anywhere. -/
def find (folder : Folder) (path : Path) : Except AccessFault Found :=
  if path.root.isEmpty then folder.follow [] path.parts
  else if path.parts.isEmpty then .ok .folder
  else .error .missing

def read (folder : Folder) (path : Path) : Except AccessFault Bytes :=
  match folder.find path with
  | .ok (.file _ bytes) => .ok bytes
  | .ok .folder => .error .isFolder
  | .ok (.free _) => .error .missing
  | .error fault => .error fault

/-- The folder with a file at a path, in place of the one that is there. -/
def write (folder : Folder) (path : Path) (bytes : Bytes) : Except AccessFault Folder :=
  match folder.find path with
  | .ok (.file place _) | .ok (.free place) =>
    .ok { folder with files := folder.files.put place bytes }
  | .ok .folder => .error .isFolder
  | .error fault => .error fault

def makeFolder (folder : Folder) (place : Place) : Folder :=
  { folder with folders := folder.folders ++ [place] }

/-- The folder with a file at a place; the folders on the way are made. -/
def makeFile (folder : Folder) (place : Place) (bytes : Bytes) : Folder :=
  { folder with files := folder.files.put place bytes }

end Folder
end Daybook
