import Phrasebook.Line.Token

/-!
# What a line asks for

The tokens of a line decide what it asks for. A line that begins with the word `package`
and has a name after it opens a package; further words are passed over. Otherwise two
tokens define a message, and any other number of tokens is ignored.
-/

namespace Phrasebook

/-- What a definition line asks for. -/
inductive Directive where
  /-- Nothing: the line is blank or a comment. -/
  | nothing
  /-- Open the package of this name. -/
  | package (name : String)
  /-- Define a message. -/
  | message (name template : String)
  /-- Nothing that is known: the line has this many tokens. -/
  | ignored (tokens : Nat)
  deriving DecidableEq, Repr

/-- The word that opens a package. -/
def Directive.packageWord : String := "package"

/-- What the tokens of a line ask for. -/
def Directive.ofTokens : List String → Directive
  | [] => .nothing
  | first :: rest =>
    if first = packageWord then
      match rest with
      | [] => .ignored 1
      | name :: _ => .package name
    else
      match rest with
      | [template] => .message first template
      | _ => .ignored (rest.length + 1)

end Phrasebook
