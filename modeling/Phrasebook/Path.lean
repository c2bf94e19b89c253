import Phrasebook.Text.Utf8

/-!
# Paths

A path is a byte string in which slashes separate names. Its *components* are what remains
when spelling is disregarded: repeated and trailing slashes do not count, nor does a `.`
other than a leading one. A leading slash, a leading `.` and every `..` are components of
their own. Two paths are *equivalent* when they have the same components; no file has to
exist for that, and no `..` is resolved.
-/

namespace Phrasebook

/-- A path, as it is given. -/
structure Path where
  bytes : Bytes
  deriving DecidableEq, Repr

/-- A component of a path. -/
inductive Component where
  /-- The root directory, for a leading slash. -/
  | root
  /-- A leading `.`. -/
  | here
  /-- A `..`, anywhere. -/
  | parent
  /-- Any other name. -/
  | name (bytes : Bytes)
  deriving DecidableEq, Repr

namespace Path

/-- The byte that separates names. -/
def slash : UInt8 := 0x2F

/-- The byte that separates the extension of a name from its stem. -/
def dot : UInt8 := 0x2E

/-- The path that a text spells. -/
def ofString (s : String) : Path :=
  ⟨Utf8.encode s⟩

/-- The text that shows a path; bytes that are no text are replaced. -/
def display (p : Path) : String :=
  Utf8.decodeLossy p.bytes

/-- The stretches of a byte string between its slashes, empty ones included. -/
def stretches : Bytes → List Bytes
  | [] => [[]]
  | b :: bs =>
    if b = slash then [] :: stretches bs
    else
      match stretches bs with
      | [] => [[b]]
      | first :: rest => (b :: first) :: rest

/-- Whether a path begins at the root directory. -/
def isAbsolute (p : Path) : Bool :=
  p.bytes.head? == some slash

/-- The component of a stretch; an empty one and a `.` have none. -/
def component? (stretch : Bytes) : Option Component :=
  if stretch = [] ∨ stretch = [dot] then none
  else if stretch = [dot, dot] then some .parent
  else some (.name stretch)

/-- The component that the beginning of a path adds to those of its stretches. -/
def leading (p : Path) : List Component :=
  if p.isAbsolute then [.root]
  else if (stretches p.bytes).head? = some [dot] then [.here]
  else []

/-- The components of a path. -/
def components (p : Path) : List Component :=
  p.leading ++ (stretches p.bytes).filterMap component?

/-- Whether two paths have the same components. -/
def equivalent (p q : Path) : Bool :=
  p.components == q.components

/-- The last component of a path, if it is a name. -/
def fileName? (p : Path) : Option Bytes :=
  match p.components.getLast? with
  | some (.name bytes) => some bytes
  | _ => none

/-- The extension of a file name: what follows its last dot, unless nothing stands before
that dot. -/
def extensionOf? (name : Bytes) : Option Bytes :=
  let last := (name.reverse.takeWhile (· != dot)).reverse
  if last.length + 1 < name.length then some last else none

/-- The extension of the file name of a path, if it has both. -/
def extension? (p : Path) : Option Bytes :=
  p.fileName?.bind extensionOf?

end Path

end Phrasebook
