import Phrasebook.Template.Reader

/-!
# Malformed lines

A definition line is malformed when a quoted run in it never ends, or when it defines a
message whose template is refused. Columns are counted in characters from one: those of
the line for a quote, those of the template for a placeholder.
-/

namespace Phrasebook

/-- What is wrong with a definition line. -/
inductive Malformed where
  | unterminatedQuote (column : Nat)
  | invalidTemplate (refusal : Template.Refusal)
  deriving DecidableEq, Repr

/-- The wording of what is wrong. -/
def Malformed.message : Malformed → String
  | .unterminatedQuote column => "Unterminated quote starting at column " ++ toString column
  | .invalidTemplate refusal =>
    "Invalid template at column " ++ toString refusal.column ++ ": " ++ refusal.fault.reason

end Phrasebook
