import Phrasebook.Settings.Node
import Phrasebook.Settings.Text

/-!
# Reading settings

A settings file is a TOML document: lines with a key and a value, headers of tables and of
sequences of tables, blank lines and comments. A reader of some part of it takes the text
from there on, and gives what it has read together with what follows, or `none` if the
text breaks the rules.

Values may be nested at most `maxDepth` deep, and a key has at most as many parts. The
other loops read on while the text gets shorter; an item that reads nothing ends them.
-/

namespace Phrasebook.Settings

/-- How deep values may be nested, and how many parts a key may have. -/
def maxDepth : Nat := 79

/-! ### Blanks, comments and line ends -/

/-- The text without leading spaces and tabs. -/
def skipSpaces (s : List Char) : List Char :=
  s.dropWhile isSpace

/-- The text without a comment at its beginning. -/
def skipComment : List Char → List Char
  | '#' :: rest => rest.dropWhile isTextChar
  | s => s

/-- What follows the end of a line, before which blanks and a comment may stand. The file
may end instead of the line. -/
def endLine? (s : List Char) : Option (List Char) :=
  match skipComment (skipSpaces s) with
  | [] => some []
  | rest => afterLineEnd? rest

/-- Skips blanks, line ends and comments inside of an array. A comment has to end with its
line. -/
def skipLines (inComment : Bool) : List Char → Option (List Char)
  | [] => if inComment then none else some []
  | '\n' :: rest => skipLines false rest
  | '\r' :: '\n' :: rest => skipLines false rest
  | c :: rest =>
    if inComment then (if isTextChar c then skipLines true rest else none)
    else if isSpace c then skipLines false rest
    else if c = '#' then skipLines true rest
    else some (c :: rest)

/-! ### Keys -/

/-- Whether a character may stand in a key without quotes. -/
def isBareChar (c : Char) : Bool :=
  isDecimalDigit c || ('a' ≤ c && c ≤ 'z') || ('A' ≤ c && c ≤ 'Z') || c == '_' || c == '-'

/-- Reads a part of a key. -/
def readKeyPart (s : List Char) : Option (String × List Char) :=
  match s with
  | '"' :: _ | '\'' :: _ => (readLineText? s).map fun read => (String.ofList read.1, read.2)
  | _ =>
    let bare := s.takeWhile isBareChar
    if bare.isEmpty then none else some (String.ofList bare, s.dropWhile isBareChar)

/-- Reads a key of at most so many parts, with the blanks around its parts. -/
def readKeyUpTo : Nat → List Char → Option (List String × List Char)
  | 0, _ => none
  | parts + 1, s => do
    let (part, rest) ← readKeyPart (skipSpaces s)
    match skipSpaces rest with
    | '.' :: rest =>
      let (key, rest) ← readKeyUpTo parts rest
      return (part :: key, rest)
    | rest => return ([part], rest)

/-- Reads a key. -/
def readKey (s : List Char) : Option (List String × List Char) :=
  readKeyUpTo maxDepth s

/-! ### Values -/

/-- Whether a character may stand in a number, a date or a truth value. -/
def isScalarChar (c : Char) : Bool :=
  isBareChar c || c == '+' || c == '.' || c == ':'

/-- What follows a time after a date and a space, or else all of the text. -/
def skipTime (s : List Char) : List Char :=
  match s with
  | ' ' :: rest =>
    if isZonedTime (rest.takeWhile isScalarChar) then rest.dropWhile isScalarChar else s
  | _ => s

/-- Reads a number, a date or a truth value. -/
def readScalar (s : List Char) : Option (Node × List Char) :=
  let scalar := s.takeWhile isScalarChar
  let rest := s.dropWhile isScalarChar
  if scalar == ['t', 'r', 'u', 'e'] then some (.flag true, rest)
  else if scalar == ['f', 'a', 'l', 's', 'e'] then some (.flag false, rest)
  else if isDate scalar then some (.other, skipTime rest)
  else if isMoment scalar || isFloat scalar || isInteger scalar then some (.other, rest)
  else none

/-- Reads the rest of an array, given how its items are read. A comma may follow the last
item. -/
def readItems (item : List Char → Option (Node × List Char)) (s : List Char) :
    Option (List Node × List Char) := do
  match ← skipLines false s with
  | ']' :: rest => return ([], rest)
  | begun =>
    let (node, rest) ← item begun
    match ← skipLines false rest with
    | ']' :: rest => return ([node], rest)
    | ',' :: rest =>
      if rest.length < s.length then
        let (nodes, rest) ← readItems item rest
        return (node :: nodes, rest)
      else none
    | _ => none
termination_by s.length

/-- Reads a key and its value, given how values are read, with the blanks around them. -/
def readPair (value : List Char → Option (Node × List Char)) (s : List Char) :
    Option ((List String × Node) × List Char) := do
  let (key, rest) ← readKey s
  match rest with
  | '=' :: rest =>
    let (node, rest) ← value (skipSpaces rest)
    return ((key, node), skipSpaces rest)
  | _ => none

/-- Reads the rest of an inline table that is not empty, given how values are read and the
entries before. -/
def readEntries (value : List Char → Option (Node × List Char)) (entries : Entries)
    (s : List Char) : Option (Entries × List Char) := do
  let ((key, node), rest) ← readPair value s
  let entries ← Entries.insert node key entries
  match rest with
  | '}' :: rest => return (entries, rest)
  | ',' :: rest => if rest.length < s.length then readEntries value entries rest else none
  | _ => none
termination_by s.length

/-- Reads a value that is nested at most so deep. -/
def readValueUpTo (depth : Nat) (s : List Char) : Option (Node × List Char) :=
  match depth, s with
  | _, '"' :: _ | _, '\'' :: _ =>
    (readText? s).map fun read => (.text (String.ofList read.1), read.2)
  | depth + 1, '[' :: rest =>
    (readItems (readValueUpTo depth) rest).map fun read => (.array read.1, read.2)
  | depth + 1, '{' :: rest =>
    match skipSpaces rest with
    | '}' :: rest => some (.table .inline [], rest)
    | rest =>
      (readEntries (readValueUpTo depth) [] rest).map fun read => (.table .inline read.1, read.2)
  | _, _ => readScalar s

/-- Reads a value. -/
def readValue (s : List Char) : Option (Node × List Char) :=
  readValueUpTo maxDepth s

/-! ### Documents -/

/-- Reads a header up to its closing brackets. -/
def readHeader (closing : List Char) (s : List Char) : Option (List String × List Char) := do
  let (key, rest) ← readKey s
  if closing.isPrefixOf rest then return (key, ← endLine? (rest.drop closing.length)) else none

/-- Reads one line of a document, or as many as its value takes. -/
def readStatement (draft : Draft) (s : List Char) : Option (Draft × List Char) := do
  match s with
  | '[' :: '[' :: rest =>
    let (header, rest) ← readHeader [']', ']'] rest
    return (← draft.beginElement header, rest)
  | '[' :: rest =>
    let (header, rest) ← readHeader [']'] rest
    return (← draft.beginTable header, rest)
  | '#' :: _ | '\n' :: _ | '\r' :: _ => return (draft, ← endLine? s)
  | _ =>
    let ((key, node), rest) ← readPair readValue s
    return (← draft.add key node, ← endLine? rest)

/-- Reads the rest of a document. -/
def readStatements (draft : Draft) (s : List Char) : Option Draft := do
  match skipSpaces s with
  | [] => return draft
  | begun =>
    let (draft, rest) ← readStatement draft begun
    if rest.length < s.length then readStatements draft rest else none
termination_by s.length

/-- The text without a byte order mark at its beginning. -/
def dropMark : List Char → List Char
  | '\uFEFF' :: rest => rest
  | s => s

/-- The entries of a settings file, or `none` if it breaks the rules of the format. -/
def read? (document : String) : Option Entries :=
  (readStatements {} (dropMark document.toList)).map Draft.entries

end Phrasebook.Settings
