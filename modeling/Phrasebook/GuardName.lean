import Phrasebook.Path

/-!
# Guard names

The include guard of a C++ header is named after its file. The name is spelled in capital
letters, digits and single underscores: every run of other characters becomes one
underscore, underscores at the ends are dropped, and one is put in front of a leading
digit. Only the last component of a path takes part, so a header keeps its guard when it
moves to another directory. Where this leaves nothing, a fixed name stands in.
-/

namespace Phrasebook.GuardName

/-- Whether a character may stand in a guard name as it is: an ASCII letter or digit. -/
def isWordChar (c : Char) : Bool :=
  ('a' ≤ c && c ≤ 'z') || ('A' ≤ c && c ≤ 'Z') || ('0' ≤ c && c ≤ '9')

/-- Replaces every run of other characters by one underscore. `after` says that such a run
has just been replaced. -/
def collapse (after : Bool) : List Char → List Char
  | [] => []
  | c :: cs =>
    if isWordChar c then c :: collapse false cs
    else if after then collapse true cs
    else '_' :: collapse true cs

/-- The text without the underscores at its ends. -/
def trimUnderscores (cs : List Char) : List Char :=
  ((cs.dropWhile (· == '_')).reverse.dropWhile (· == '_')).reverse

/-- The text with an underscore in front if it begins with a digit. -/
def protectDigit : List Char → List Char
  | [] => []
  | c :: cs => if '0' ≤ c && c ≤ '9' then '_' :: c :: cs else c :: cs

/-- The guard name that a text gives, which may be empty. -/
def ofText (s : String) : String :=
  String.ofList (protectDigit ((trimUnderscores (collapse false s.toList)).map Char.toUpper))

/-- The guard name where no file gives one. -/
def fallback : String := "GENERATED_MESSAGES_HPP"

/-- The guard name of an output path. -/
def ofPath (p : Path) : String :=
  match p.fileName? with
  | none => fallback
  | some name =>
    let guard := ofText (Utf8.decodeLossy name)
    if guard = "" then fallback else guard

end Phrasebook.GuardName
