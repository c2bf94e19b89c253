import Phrasebook.Path

/-!
# Options

The options of a run: the language of the generated file, how a C++ header protects itself
against double inclusion, whether a malformed line ends the run, and whether messages are
examined for likely mistakes. A target and a guard style can be named; names are read
without regard to the case of ASCII letters. This covers every way to write a name, since
no other character has a lower-case form that occurs in one.
-/

namespace Phrasebook

/-- The language of the generated file. -/
inductive Target where
  | cpp
  | rust
  deriving DecidableEq, Repr

/-- How a C++ header protects itself against double inclusion. -/
inductive GuardStyle where
  /-- By a `#pragma once`. -/
  | pragma
  /-- By a definition that surrounds the whole file. -/
  | ifndef
  deriving DecidableEq, Repr

/-- The options of a run. -/
structure Options where
  target : Target := .cpp
  guard : GuardStyle := .pragma
  strict : Bool := false
  lint : Bool := true
  deriving DecidableEq, Repr

/-- A name that stands for no target, or for no guard style. -/
inductive UnknownName where
  | target (name : String)
  | guardStyle (name : String)
  deriving DecidableEq, Repr

/-- The wording of an unknown name. -/
def UnknownName.message : UnknownName → String
  | .target name => "Unknown target: " ++ name
  | .guardStyle name => "Unknown include guard style: " ++ name

namespace Target

/-- The name of a target in options and log lines. -/
def name : Target → String
  | .cpp => "cpp"
  | .rust => "rust"

/-- The name of a target in prose. -/
def displayName : Target → String
  | .cpp => "C++"
  | .rust => "Rust"

/-- The usual extension of a generated file. -/
def preferredExtension : Target → String
  | .cpp => "hpp"
  | .rust => "rs"

/-- The extensions of generated files, the usual one first. -/
def extensions (t : Target) : List String :=
  t.preferredExtension ::
    match t with
    | .cpp => ["h", "hh", "hxx"]
    | .rust => []

/-- The names under which a target can be asked for, in lower case. -/
def aliases : Target → List String
  | .cpp => ["cpp", "c++", "hpp"]
  | .rust => ["rust", "rs"]

/-- The target of an alias, in lower case. -/
def ofAlias? (s : String) : Option Target :=
  if Target.cpp.aliases.contains s then some .cpp
  else if Target.rust.aliases.contains s then some .rust
  else none

/-- The target that a text names. -/
def ofName (s : String) : Except UnknownName Target :=
  match ofAlias? s.toLower with
  | some target => .ok target
  | none => .error (.target s)

/-- Whether the extension of a path is one of the target's. -/
def matchesPath (t : Target) (p : Path) : Bool :=
  (p.extension?.bind Utf8.decode?).any fun extension =>
    t.extensions.contains extension.toLower

end Target

namespace GuardStyle

/-- The name of a guard style in options. -/
def name : GuardStyle → String
  | .pragma => "pragma"
  | .ifndef => "ifndef"

/-- The names under which a guard style can be asked for, in lower case. -/
def aliases : GuardStyle → List String
  | .pragma => ["pragma", "pragma-once"]
  | .ifndef => ["ifndef", "define"]

/-- The guard style of an alias, in lower case. -/
def ofAlias? (s : String) : Option GuardStyle :=
  if GuardStyle.pragma.aliases.contains s then some .pragma
  else if GuardStyle.ifndef.aliases.contains s then some .ifndef
  else none

/-- The guard style that a text names. -/
def ofName (s : String) : Except UnknownName GuardStyle :=
  match ofAlias? s.toLower with
  | some style => .ok style
  | none => .error (.guardStyle s)

end GuardStyle

end Phrasebook
