import Phrasebook.Template.Basic
import Phrasebook.Text.Blank

/-!
# Reading templates

A template is read from left to right.

* `{{` and `}}` are a literal opening and closing brace.
* Any other `{` opens a placeholder, which ends at the next `}`. Its index is a decimal
  number, padded with blanks if need be; what follows a `:` or a `!` is a format or a
  conversion and is passed over.
* A `}` outside of a placeholder has to be doubled.
* A double quote belongs to the quoting of the definition line and is dropped.
* Every other character stands for itself.

The first item that breaks these rules decides the error, which names the column of its
brace, counted in characters from one.
-/

namespace Phrasebook.Template

/-- Whether a character is one of the ten decimal digits. -/
def isDigit (c : Char) : Bool :=
  '0' ≤ c && c ≤ '9'

/-- The number that a row of decimal digits spells. -/
def decimal (digits : List Char) : Nat :=
  digits.foldl (fun n c => 10 * n + (c.toNat - '0'.toNat)) 0

/-- The name of a placeholder: what stands before a format or a conversion, trimmed. -/
def fieldName (field : List Char) : List Char :=
  Text.trim (field.takeWhile fun c => c != ':' && c != '!')

/-- The index of a placeholder, given what stands between its braces. -/
def fieldIndex (field : List Char) : Except Fault Nat :=
  let name := fieldName field
  if name.isEmpty then .error .missingIndex
  else if !name.all isDigit then .error (.notNumeric (String.ofList name))
  else if decimal name < indexBound then .ok (decimal name)
  else .error (.outOfRange (String.ofList name))

/-- A fault and the column at which it stands. -/
structure Refusal where
  column : Nat
  fault : Fault
  deriving DecidableEq, Repr

/-- An open placeholder: the column of its brace and what has been read of it, the last
character first. -/
structure OpenField where
  column : Nat
  text : List Char
  deriving DecidableEq, Repr

/-- Reads the rest of a template. The first character of the rest stands at `column`,
`literal` is the literal text since the last placeholder, the last character first, and
`field` is the placeholder that is open, if one is. -/
def readFrom (column : Nat) (literal : List Char) :
    Option OpenField → List Char → Except Refusal (List Segment)
  | some field, [] => .error ⟨field.column, .neverClosed⟩
  | some field, c :: cs =>
    if c = '}' then
      match fieldIndex field.text.reverse with
      | .error fault => .error ⟨field.column, fault⟩
      | .ok index =>
        match readFrom (column + 1) [] none cs with
        | .error refusal => .error refusal
        | .ok segments => .ok (⟨String.ofList literal.reverse, some index⟩ :: segments)
    else readFrom (column + 1) literal (some ⟨field.column, c :: field.text⟩) cs
  | none, [] =>
    if literal.isEmpty then .ok [] else .ok [⟨String.ofList literal.reverse, none⟩]
  | none, '{' :: '{' :: cs => readFrom (column + 2) ('{' :: literal) none cs
  | none, '}' :: '}' :: cs => readFrom (column + 2) ('}' :: literal) none cs
  | none, c :: cs =>
    if c = '{' then readFrom (column + 1) literal (some ⟨column, []⟩) cs
    else if c = '}' then .error ⟨column, .loneClosingBrace⟩
    else if c = '"' then readFrom (column + 1) literal none cs
    else readFrom (column + 1) (c :: literal) none cs

/-- The segments of a template, or the first item in it that breaks the rules. -/
def read (source : String) : Except Refusal (List Segment) :=
  readFrom 1 [] none source.toList

end Phrasebook.Template
