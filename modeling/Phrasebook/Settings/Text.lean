import Phrasebook.Settings.Scalar

/-!
# Texts of settings

A text stands between double quotes, where a backslash begins an escape, or between single
quotes, where every character stands for itself. Three quotes of either kind enclose a text
over several lines. In such a text the line feed right after the opening is not part of it,
a carriage return before a line feed is dropped, and up to two quotes may stand anywhere,
also right before the closing ones. Between double quotes a backslash at the end of a line
drops the end of the line and all blanks and line ends up to the next character.

Every reader here starts after the opening quotes, and gives the text and what follows its
closing quotes.
-/

namespace Phrasebook.Settings

/-- Whether a character may stand in a text or in a comment as it is: a tab, or any
character that is not an ASCII control. -/
def isTextChar (c : Char) : Bool :=
  c == '\t' || (' ' ≤ c && c != '\x7f')

/-- Whether a character is a space or a tab. -/
def isSpace (c : Char) : Bool :=
  c == ' ' || c == '\t'

/-- What follows the end of a line, if the text begins with one. -/
def afterLineEnd? : List Char → Option (List Char)
  | '\n' :: rest => some rest
  | '\r' :: '\n' :: rest => some rest
  | _ => none

/-- The character of an escape of one letter. -/
def simpleEscape? : Char → Option Char
  | 'b' => some '\x08'
  | 't' => some '\t'
  | 'n' => some '\n'
  | 'f' => some '\x0c'
  | 'r' => some '\r'
  | '"' => some '"'
  | '\\' => some '\\'
  | _ => none

/-- The character that a row of hexadecimal digits names, if it names one. -/
def scalar? (row : List Char) : Option Char :=
  let n := rowValue 16 row
  if row.all isHexDigit && n.isValidChar then some (Char.ofNat n) else none

/-- Puts a character in front of a text that has been read. -/
def prepend (c : Option Char) (read : Option (List Char × List Char)) :
    Option (List Char × List Char) := do
  let (text, rest) ← read
  return ((← c) :: text, rest)

/-- Reads a text between double quotes. -/
def readBasic : List Char → Option (List Char × List Char)
  | [] => none
  | '"' :: rest => some ([], rest)
  | '\\' :: 'u' :: a :: b :: c :: d :: rest => prepend (scalar? [a, b, c, d]) (readBasic rest)
  | '\\' :: 'U' :: a :: b :: c :: d :: e :: f :: g :: h :: rest =>
    prepend (scalar? [a, b, c, d, e, f, g, h]) (readBasic rest)
  | '\\' :: c :: rest => prepend (simpleEscape? c) (readBasic rest)
  | c :: rest => if isTextChar c then prepend (some c) (readBasic rest) else none

/-- Reads a text over several lines between double quotes. `gap` says that a backslash at
the end of a line is dropping blanks and line ends. -/
def readBasicLines (gap : Bool) : List Char → Option (List Char × List Char)
  | [] => none
  | '\n' :: rest =>
    if gap then readBasicLines true rest else prepend (some '\n') (readBasicLines false rest)
  | '\r' :: '\n' :: rest =>
    if gap then readBasicLines true rest else prepend (some '\n') (readBasicLines false rest)
  | '"' :: '"' :: '"' :: '"' :: '"' :: rest => some (['"', '"'], rest)
  | '"' :: '"' :: '"' :: '"' :: rest => some (['"'], rest)
  | '"' :: '"' :: '"' :: rest => some ([], rest)
  | '\\' :: 'u' :: a :: b :: c :: d :: rest =>
    prepend (scalar? [a, b, c, d]) (readBasicLines false rest)
  | '\\' :: 'U' :: a :: b :: c :: d :: e :: f :: g :: h :: rest =>
    prepend (scalar? [a, b, c, d, e, f, g, h]) (readBasicLines false rest)
  | '\\' :: c :: rest =>
    if (afterLineEnd? ((c :: rest).dropWhile isSpace)).isSome then
      if isSpace c || c == '\n' || c == '\r' then readBasicLines true rest else none
    else prepend (simpleEscape? c) (readBasicLines false rest)
  | c :: rest =>
    if gap && isSpace c then readBasicLines true rest
    else if c != '\\' && isTextChar c then prepend (some c) (readBasicLines false rest)
    else none

/-- Reads a text between single quotes. -/
def readLiteral : List Char → Option (List Char × List Char)
  | [] => none
  | '\'' :: rest => some ([], rest)
  | c :: rest => if isTextChar c then prepend (some c) (readLiteral rest) else none

/-- Reads a text over several lines between single quotes. -/
def readLiteralLines : List Char → Option (List Char × List Char)
  | [] => none
  | '\n' :: rest => prepend (some '\n') (readLiteralLines rest)
  | '\r' :: '\n' :: rest => prepend (some '\n') (readLiteralLines rest)
  | '\'' :: '\'' :: '\'' :: '\'' :: '\'' :: rest => some (['\'', '\''], rest)
  | '\'' :: '\'' :: '\'' :: '\'' :: rest => some (['\''], rest)
  | '\'' :: '\'' :: '\'' :: rest => some ([], rest)
  | c :: rest => if isTextChar c then prepend (some c) (readLiteralLines rest) else none

/-- The text without the end of a line at its beginning, if it begins with one. -/
def dropLineEnd (s : List Char) : List Char :=
  (afterLineEnd? s).getD s

/-- Reads a text on one line, with its opening quote. -/
def readLineText? : List Char → Option (List Char × List Char)
  | '"' :: rest => readBasic rest
  | '\'' :: rest => readLiteral rest
  | _ => none

/-- Reads a text of any kind, with its opening quotes. -/
def readText? : List Char → Option (List Char × List Char)
  | '"' :: '"' :: '"' :: rest => readBasicLines false (dropLineEnd rest)
  | '\'' :: '\'' :: '\'' :: rest => readLiteralLines (dropLineEnd rest)
  | s => readLineText? s

end Phrasebook.Settings
