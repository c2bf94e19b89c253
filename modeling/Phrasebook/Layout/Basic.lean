import Phrasebook.GuardName
import Phrasebook.Layout.Header
import Phrasebook.Layout.Module

/-!
# Chunks and layouts

The generated file is written in *chunks*: its beginning, the openings and closings of
packages, its functions, and its end. A chunk says what is written and not how: a *layout*
spells it. There is a layout for each target, and the one for C++ headers also knows how
the header is guarded.
-/

namespace Phrasebook

/-- A part of the generated file that is written in one go. -/
inductive Chunk where
  | preamble
  | opening (name : String)
  | closing (name : String)
  | function (message : Message)
  | postamble
  deriving DecidableEq, Repr

/-- How chunks are spelled. -/
inductive Layout where
  | header (style : GuardStyle) (guard : String)
  | rustModule
  deriving DecidableEq, Repr

namespace Layout

/-- The target of a layout. -/
def target : Layout → Target
  | .header _ _ => .cpp
  | .rustModule => .rust

/-- The text of a chunk. -/
def text : Layout → Chunk → String
  | .header style guard, .preamble => Header.preamble style guard
  | .header _ _, .opening name => Header.opening name
  | .header _ _, .closing name => Header.closing name
  | .header _ _, .function message => Header.function message
  | .header style guard, .postamble => Header.postamble style guard
  | .rustModule, .preamble => Module.preamble
  | .rustModule, .opening name => Module.opening name
  | .rustModule, .closing name => Module.closing name
  | .rustModule, .function message => Module.function message
  | .rustModule, .postamble => ""

/-- The layout that options ask for. The path of the generated file, if it has one, only
gives the guard its name. -/
def select (options : Options) (output : Option Path) : Layout :=
  match options.target with
  | .cpp => .header options.guard ((output.map GuardName.ofPath).getD GuardName.fallback)
  | .rust => .rustModule

end Layout

end Phrasebook
