/-!
# Reading bytes as text

Definition files and paths are byte strings, and their text is read off with UTF-8. One
reader serves both uses. It cuts the bytes into *pieces*: a well-formed sequence is the
character that it spells, and everything else is cut into broken pieces as the Unicode
standard recommends, each as long as it could still have begun a well-formed sequence.

* `decode?` accepts a byte string exactly when it has no broken piece;
* `decodeLossy` shows every broken piece as one replacement character.

The reader takes one byte at a time and holds, between bytes, the sequence that it has
begun. A sequence is given up at the first byte that cannot continue it, and that byte is
then read afresh.
-/

namespace Phrasebook

/-- A byte string, as it stands in a file or names one. -/
abbrev Bytes := List UInt8

namespace Utf8

/-- A piece of a byte string: a character, or bytes that spell none. -/
inductive Piece where
  | char (c : Char)
  | broken
  deriving DecidableEq, Repr

/-- A sequence that has been begun: the bits read so far, the range in which the next byte
has to lie, and how many bytes are missing after that one. -/
structure Pending where
  bits : Nat
  low : UInt8
  high : UInt8
  further : Nat
  deriving DecidableEq, Repr

/-- What a byte begins: a character of its own, a longer sequence, or nothing. -/
inductive Lead where
  | char (c : Char)
  | begins (p : Pending)
  | broken
  deriving DecidableEq, Repr

/-- Reads the first byte of a sequence. The range of the second byte excludes overlong
forms (after `E0` and `F0`), surrogates (after `ED`) and values above U+10FFFF (after
`F4`). -/
def lead (b : UInt8) : Lead :=
  if b < 0x80 then .char (Char.ofNat b.toNat)
  else if b < 0xC2 then .broken
  else if b < 0xE0 then .begins ⟨b.toNat - 0xC0, 0x80, 0xBF, 0⟩
  else if b < 0xF0 then
    .begins ⟨b.toNat - 0xE0, if b = 0xE0 then 0xA0 else 0x80, if b = 0xED then 0x9F else 0xBF, 1⟩
  else if b < 0xF5 then
    .begins ⟨b.toNat - 0xF0, if b = 0xF0 then 0x90 else 0x80, if b = 0xF4 then 0x8F else 0xBF, 2⟩
  else .broken

/-- The bits of a begun sequence together with those of its next byte. -/
def Pending.extend (p : Pending) (b : UInt8) : Nat :=
  p.bits * 0x40 + (b.toNat - 0x80)

/-- Reads a byte outside of any sequence; `next` gives the pieces of the bytes after it. -/
def startPieces (b : UInt8) (next : Option Pending → List Piece) : List Piece :=
  match lead b with
  | .char c => .char c :: next none
  | .begins p => next (some p)
  | .broken => .broken :: next none

/-- Cuts a byte string into pieces, given the sequence that has been begun before it. -/
def piecesFrom : Option Pending → Bytes → List Piece
  | none, [] => []
  | some _, [] => [.broken]
  | none, b :: bs => startPieces b fun p => piecesFrom p bs
  | some p, b :: bs =>
    if p.low ≤ b && b ≤ p.high then
      match p.further with
      | 0 => .char (Char.ofNat (p.extend b)) :: piecesFrom none bs
      | n + 1 => piecesFrom (some ⟨p.extend b, 0x80, 0xBF, n⟩) bs
    else
      .broken :: startPieces b fun p => piecesFrom p bs

/-- The pieces of a byte string. -/
def pieces (bs : Bytes) : List Piece :=
  piecesFrom none bs

/-- The character of a piece, if it has one. -/
def Piece.char? : Piece → Option Char
  | .char c => some c
  | .broken => none

/-- The character that stands for a piece when it is shown: U+FFFD for a broken one. -/
def Piece.shown : Piece → Char
  | .char c => c
  | .broken => '\uFFFD'

/-- The text that a byte string spells, or `none` if it is not well-formed. -/
def decode? (bs : Bytes) : Option String :=
  ((pieces bs).mapM Piece.char?).map String.ofList

/-- The text of a byte string with each broken piece replaced. -/
def decodeLossy (bs : Bytes) : String :=
  String.ofList ((pieces bs).map Piece.shown)

/-- The bytes that spell a text. -/
def encode (s : String) : Bytes :=
  s.toList.flatMap String.utf8EncodeChar

end Utf8

end Phrasebook
