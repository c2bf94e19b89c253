import Phrasebook.Failure

/-!
# Disks

A disk holds directories and files, each at a *location*: the names that lead to it from
the root. There are no links, so a location has one spelling, and two paths name the same
file exactly when they lead to the same location.

A path is followed name by name, from the root if it begins with a slash and else from the
working directory. Empty stretches and `.` stay where they are, and `..` goes up; the root
is above itself. Every name but the last has to lead to a directory. What the last name has
to be depends on the use:

* a file that is read has to exist, and a slash after the last name asks for a directory;
* a file that is created must not be a directory, and a path that ends in a slash, `.` or
  `..` can only name one.
-/

namespace Phrasebook

/-- The names that lead from the root to a file or a directory. -/
abbrev Location := List Bytes

/-- What stands at a location. -/
inductive DiskEntry where
  | directory
  | file (content : Bytes)
  deriving DecidableEq, Repr

/-- Directories and files, and the directory in which relative paths begin. -/
structure Disk where
  entries : List (Location × DiskEntry) := []
  workingDirectory : Location := []
  deriving Repr

namespace Disk

/-- What stands at a location. The root is always a directory. -/
def get? (d : Disk) (loc : Location) : Option DiskEntry :=
  if loc = [] then some .directory else d.entries.lookup loc

/-- The disk with something else at a location. -/
def set (d : Disk) (loc : Location) (entry : DiskEntry) : Disk :=
  { d with entries := (loc, entry) :: d.entries.filter fun e => e.1 != loc }

/-- The files below the working directory, each with the names that lead to it from
there. -/
def files (d : Disk) : List (Location × Bytes) :=
  d.entries.filterMap fun e =>
    match e.2 with
    | .directory => none
    | .file content =>
      if d.workingDirectory.isPrefixOf e.1 then
        some (e.1.drop d.workingDirectory.length, content)
      else none

/-! ### Following paths -/

/-- The location of a name in a directory. -/
def child (loc : Location) (name : Bytes) : Location :=
  if name = [Path.dot] then loc
  else if name = [Path.dot, Path.dot] then loc.dropLast
  else loc ++ [name]

/-- The location of the directory that a row of names leads to. -/
def enter (d : Disk) (loc : Location) : List Bytes → Except AccessError Location
  | [] => .ok loc
  | name :: rest =>
    match d.get? (child loc name) with
    | none => .error .notFound
    | some (.file _) => .error .notADirectory
    | some .directory => d.enter (child loc name) rest

/-- The names of a path. -/
def names (p : Path) : List Bytes :=
  (Path.stretches p.bytes).filter fun stretch => stretch != []

/-- Whether a path ends in a slash. -/
def endsInSlash (p : Path) : Bool :=
  p.bytes.getLast? == some Path.slash

/-- Where the following of a path begins. -/
def origin (d : Disk) (p : Path) : Location :=
  if p.isAbsolute then [] else d.workingDirectory

/-- The location of what is read through a path. -/
def locate (d : Disk) (p : Path) : Except AccessError Location :=
  if p.bytes = [] then .error .notFound
  else
    match (names p).getLast? with
    | none => .ok (d.origin p)
    | some last =>
      match d.enter (d.origin p) (names p).dropLast with
      | .error error => .error error
      | .ok directory =>
        match d.get? (child directory last) with
        | none => .error .notFound
        | some (.file _) =>
          if endsInSlash p then .error .notADirectory else .ok (child directory last)
        | some .directory => .ok (child directory last)

/-- Whether a name stands for a directory by itself. -/
def isDots (name : Bytes) : Bool :=
  name == [Path.dot] || name == [Path.dot, Path.dot]

/-- The location of the file that is created through a path. -/
def locateNew (d : Disk) (p : Path) : Except AccessError Location :=
  if p.bytes = [] then .error .notFound
  else
    match (names p).getLast? with
    | none => .error .isADirectory
    | some last =>
      match d.enter (d.origin p) (names p).dropLast with
      | .error error => .error error
      | .ok directory =>
        if isDots last || endsInSlash p then .error .isADirectory
        else
          match d.get? (child directory last) with
          | some .directory => .error .isADirectory
          | _ => .ok (child directory last)

/-! ### Reading and writing -/

/-- The content of the file at a location. -/
def content (d : Disk) (loc : Location) : Except AccessError Bytes :=
  match d.get? loc with
  | none => .error .notFound
  | some .directory => .error .isADirectory
  | some (.file content) => .ok content

/-- The disk with a directory at a location, unless something stands there. -/
def ensureDirectory (d : Disk) (loc : Location) : Disk :=
  match d.get? loc with
  | some _ => d
  | none => d.set loc .directory

/-- The disk with the directories that a row of names leads through from a location. -/
def makeDirectories (d : Disk) (loc : Location) : List Bytes → Disk
  | [] => d
  | name :: rest => (d.ensureDirectory (child loc name)).makeDirectories (child loc name) rest

/-- The disk with the directory that a path names, and all directories on the way to it. -/
def makeDirectory (d : Disk) (p : Path) : Disk :=
  d.makeDirectories (d.origin p) (names p)

/-- The disk with the file that a path names, and all directories on the way to it. -/
def putFile (d : Disk) (p : Path) (content : Bytes) : Disk :=
  (d.makeDirectories (d.origin p) (names p).dropLast).set
    ((names p).foldl child (d.origin p)) (.file content)

end Disk

end Phrasebook
