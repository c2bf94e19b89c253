import Phrasebook.Line.Directive
import Phrasebook.Message

/-!
# The entry of a line

Reading a definition line to the end: its tokens decide what it asks for, and the template
of a message is analysed. What remains is the *entry* of the line, unless the line is
malformed.
-/

namespace Phrasebook

/-- What a well-formed definition line contributes. -/
inductive Entry where
  /-- The line is blank or a comment. -/
  | nothing
  /-- The line opens a package. -/
  | package (name : String)
  /-- The line defines a message. -/
  | message (message : Message)
  /-- The line has a number of tokens that means nothing. -/
  | ignored (tokens : Nat)
  deriving DecidableEq, Repr

namespace Entry

/-- The entry of a directive. -/
def ofDirective : Directive → Except Malformed Entry
  | .nothing => .ok .nothing
  | .package name => .ok (.package name)
  | .message name template =>
    match Template.read template with
    | .error refusal => .error (.invalidTemplate refusal)
    | .ok segments => .ok (.message (Message.ofSegments name segments))
  | .ignored tokens => .ok (.ignored tokens)

/-- The entry of a line. -/
def ofLine (line : String) : Except Malformed Entry :=
  match Line.tokens line with
  | .error error => .error error
  | .ok tokens => ofDirective (Directive.ofTokens tokens)

end Entry

end Phrasebook
