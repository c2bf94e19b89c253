/-!
# Text for a terminal

A terminal takes some characters as commands: it rings, moves back, changes its colours.
Text that comes from a file must not give it such commands, so these characters are written
as escapes: the bell, the backspace, the form feed, the escape and the delete character by
two digits, and the controls from U+0080 on by their number. Other characters stay as they
are, the rest of the controls included.
-/

namespace Phrasebook.Text

/-- How a character is written where it could reach a terminal. -/
def terminalChar (c : Char) : List Char :=
  match c with
  | '\x07' => ['\\', 'x', '0', '7']
  | '\x08' => ['\\', 'x', '0', '8']
  | '\x0c' => ['\\', 'x', '0', 'c']
  | '\x1b' => ['\\', 'x', '1', 'b']
  | '\x7f' => ['\\', 'x', '7', 'f']
  | _ =>
    if 0x80 ≤ c.toNat && c.toNat ≤ 0x9F then
      ['\\', 'u', '{'] ++ Nat.toDigits 16 c.toNat ++ ['}']
    else [c]

/-- A text that gives a terminal no commands. -/
def forTerminal (s : String) : String :=
  String.ofList (s.toList.flatMap terminalChar)

end Phrasebook.Text
