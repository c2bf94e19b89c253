import Phrasebook.Text.Invisible

/-!
# Quoted text

A quoted text stands between double quotes, so that its ends can be seen. A double quote and
a backslash in it have a backslash before them. A tab, a line feed, a carriage return and a
null character have a letter or a digit of their own, and every other character that does
not show is written as its number.
-/

namespace Phrasebook.Text

/-- How a character is written inside a quoted text. -/
def quotedChar (c : Char) : List Char :=
  match c with
  | '"' => ['\\', '"']
  | '\\' => ['\\', '\\']
  | '\t' => ['\\', 't']
  | '\n' => ['\\', 'n']
  | '\r' => ['\\', 'r']
  | '\x00' => ['\\', '0']
  | _ =>
    if isInvisible c then ['\\', 'u', '{'] ++ Nat.toDigits 16 c.toNat ++ ['}'] else [c]

/-- A text between double quotes. -/
def quoted (s : String) : String :=
  "\"" ++ String.ofList (s.toList.flatMap quotedChar) ++ "\""

end Phrasebook.Text
