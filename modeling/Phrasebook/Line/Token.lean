import Phrasebook.Line.Malformed

/-!
# The tokens of a line

A definition line is a sequence of tokens. A token is a *bare word*, a run of characters
other than blanks, or a *quoted run*, any text between two double quotes. A double quote
opens a quoted run only where a token can begin: inside a bare word it is an ordinary
character. What follows the closing quote begins a new token, with or without blanks
between. A line whose first character other than a blank is `#` is a comment; it has no
tokens, whatever it holds.
-/

namespace Phrasebook.Line

/-- Where the reader of a line stands: between two tokens, inside a bare word, or inside a
quoted run that was opened at `column`. The text of a token that is being read is held
with its last character first. -/
inductive Position where
  | between
  | word (text : List Char)
  | quoted (column : Nat) (text : List Char)
  deriving DecidableEq, Repr

/-- Whether a line is blank or a comment. -/
def isSilent (line : List Char) : Bool :=
  match Text.trimStart line with
  | [] => true
  | c :: _ => c == '#'

/-- The tokens of the rest of a line, whose first character stands at `column`. -/
def tokensFrom (column : Nat) : Position → List Char → Except Malformed (List String)
  | .between, [] => .ok []
  | .word text, [] => .ok [String.ofList text.reverse]
  | .quoted opened _, [] => .error (.unterminatedQuote opened)
  | .between, c :: cs =>
    if Text.isBlank c then tokensFrom (column + 1) .between cs
    else if c = '"' then tokensFrom (column + 1) (.quoted column []) cs
    else tokensFrom (column + 1) (.word [c]) cs
  | .word text, c :: cs =>
    if Text.isBlank c then
      (tokensFrom (column + 1) .between cs).map (String.ofList text.reverse :: ·)
    else tokensFrom (column + 1) (.word (c :: text)) cs
  | .quoted opened text, c :: cs =>
    if c = '"' then
      (tokensFrom (column + 1) .between cs).map (String.ofList text.reverse :: ·)
    else tokensFrom (column + 1) (.quoted opened (c :: text)) cs

/-- The tokens of a line: none for a blank line or a comment. -/
def tokens (line : String) : Except Malformed (List String) :=
  if isSilent line.toList then .ok [] else tokensFrom 1 .between line.toList

end Phrasebook.Line
