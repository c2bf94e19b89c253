/-!
# Message templates

The text of a message is a template: literal text with numbered placeholders. Analysing it
gives its *segments*, in order. A segment is a stretch of literal text with the index of
the placeholder that follows it; only the last segment may lack one. A template *takes* as
many arguments as its highest index requires, whether or not it uses all of them.

This module holds the analysed form. The concrete syntax is read in
`Phrasebook.Template.Reader`.
-/

namespace Phrasebook

/-- Literal text, and the index of the placeholder that follows it, if one does. -/
structure Segment where
  literal : String
  index : Option Nat
  deriving DecidableEq, Repr

namespace Template

/-- A placeholder index lies below this bound, which is also the greatest number of
arguments that a message may take: it is how many template arguments a C++ compiler has to
accept. -/
def indexBound : Nat := 1024

/-- How many arguments the segments take: one more than the highest index, or none. -/
def arity (segments : List Segment) : Nat :=
  (segments.filterMap Segment.index).foldr (fun i n => max (i + 1) n) 0

/-- Why a template is refused. -/
inductive Fault where
  /-- A placeholder has no closing brace. -/
  | neverClosed
  /-- A closing brace stands alone outside of any placeholder. -/
  | loneClosingBrace
  /-- A placeholder has no name. -/
  | missingIndex
  /-- The name of a placeholder has a character that is no digit. -/
  | notNumeric (name : String)
  /-- The index of a placeholder is not below the bound. -/
  | outOfRange (digits : String)
  deriving DecidableEq, Repr

/-- The wording of a fault. -/
def Fault.reason : Fault → String
  | .neverClosed => "placeholder is never closed"
  | .loneClosingBrace => "single '\x7d' encountered; use '\x7d\x7d' for a literal brace"
  | .missingIndex => "placeholder needs an explicit index such as \x7b0\x7d"
  | .notNumeric name => "placeholder '" ++ name ++ "' is not a numeric index"
  | .outOfRange digits =>
    "placeholder index " ++ digits ++ " is out of range (at most " ++ toString indexBound ++
      " parameters)"

end Template

end Phrasebook
