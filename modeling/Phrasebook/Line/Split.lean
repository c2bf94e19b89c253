import Phrasebook.Text.Utf8

/-!
# Lines of a file

A line ends at a line feed, and one carriage return just before the line feed belongs to
the end as well. A rest without a line feed is a line too, unless it is empty. Lines are
cut from bytes, before they are read as text, so bytes that are no text only concern the
line in which they stand.
-/

namespace Phrasebook.Line

/-- The byte that ends a line. -/
def lineFeed : UInt8 := 0x0A

/-- The byte that may stand before the end of a line. -/
def carriageReturn : UInt8 := 0x0D

/-- A line without the carriage return at its end; the last byte of the line is the first
of the list. -/
def dropReturn : Bytes → Bytes
  | [] => []
  | b :: bs => if b = carriageReturn then bs else b :: bs

/-- The lines of the rest of a file, given what has been read of the current line, its last
byte first. -/
def splitFrom (current : Bytes) : Bytes → List Bytes
  | [] => if current.isEmpty then [] else [current.reverse]
  | b :: bs =>
    if b = lineFeed then (dropReturn current).reverse :: splitFrom [] bs
    else splitFrom (b :: current) bs

/-- The lines of a file. -/
def split (bs : Bytes) : List Bytes :=
  splitFrom [] bs

end Phrasebook.Line
