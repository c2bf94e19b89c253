import Phrasebook.Files.Disk

/-!
# Access to files

What a run on files needs from its surroundings: to open a file and read all of it, and to
create a file and fill it. Opening and reading are apart, because a file that has been
opened may change before it is read, and because a directory can be opened and not be read.
The operations are given for a disk, where they are functions on its state, and can be
given for a file system.
-/

namespace Phrasebook

/-- The operations on files in some monad, with the type of an open file. -/
structure FileAccess (m : Type → Type) (Handle : Type) where
  /-- Opens a file or a directory to be read. -/
  openSource : Path → m (Except AccessError Handle)
  /-- Reads all of an open file. -/
  readAll : Handle → m (Except AccessError Bytes)
  /-- Creates a file, or empties it if it exists. -/
  create : Path → m (Except AccessError Handle)
  /-- Fills a file that has been created. -/
  fill : Handle → Bytes → m (Except AccessError Unit)

namespace Disk

/-- Opens a file or a directory to be read. -/
def openSource (p : Path) : StateM Disk (Except AccessError Location) :=
  fun d => (d.locate p, d)

/-- Reads all of an open file. -/
def readAll (loc : Location) : StateM Disk (Except AccessError Bytes) :=
  fun d => (d.content loc, d)

/-- Creates a file, or empties it if it exists. -/
def create (p : Path) : StateM Disk (Except AccessError Location) :=
  fun d =>
    match d.locateNew p with
    | .error error => (.error error, d)
    | .ok loc => (.ok loc, d.set loc (.file []))

/-- Fills a file that has been created. -/
def fill (loc : Location) (content : Bytes) : StateM Disk (Except AccessError Unit) :=
  fun d => (.ok (), d.set loc (.file content))

/-- The operations on files of a disk. -/
def access : FileAccess (StateM Disk) Location :=
  { openSource, readAll, create, fill }

end Disk

end Phrasebook
