import Phrasebook.Template.Basic

/-!
# Messages

A message is a function to be generated: its name, how many arguments it takes, and the
parts that it puts together, each literal text or an argument. It is independent of the
language in which it will be spelled. The arguments are numbered from zero; argument `i`
has the type name `T<i>` and the value name `P<i>`.
-/

namespace Phrasebook

/-- A part of the text that a message puts together. -/
inductive Part where
  | literal (text : String)
  | argument (index : Nat)
  deriving DecidableEq, Repr

/-- A message to be generated. -/
structure Message where
  name : String
  arity : Nat
  body : List Part
  deriving DecidableEq, Repr

/-- The argument that a part refers to, if it does. -/
def Part.argument? : Part → Option Nat
  | .literal _ => none
  | .argument index => some index

/-- The parts of a segment: its literal text unless that is empty, then its argument. -/
def Segment.parts (s : Segment) : List Part :=
  (if s.literal = "" then [] else [.literal s.literal]) ++ s.index.toList.map .argument

namespace Message

/-- The message of a name and an analysed template. -/
def ofSegments (name : String) (segments : List Segment) : Message :=
  { name, arity := Template.arity segments, body := segments.flatMap Segment.parts }

/-- The arguments that a message takes, used or not. -/
def arguments (m : Message) : List Nat :=
  List.range m.arity

/-- Whether the body of a message refers to an argument. -/
def uses (m : Message) (index : Nat) : Bool :=
  m.body.any fun part => part.argument? == some index

/-- The arguments that a message takes and does not use, in ascending order. -/
def unused (m : Message) : List Nat :=
  m.arguments.filter fun index => !m.uses index

/-- Whether a message takes any argument. -/
def isGeneric (m : Message) : Bool :=
  0 < m.arity

/-- The name of the type of an argument. -/
def typeName (index : Nat) : String :=
  "T" ++ toString index

/-- The name of the value of an argument. -/
def valueName (index : Nat) : String :=
  "P" ++ toString index

end Message

end Phrasebook
