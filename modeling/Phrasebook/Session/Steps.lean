import Phrasebook.Line.Entry
import Phrasebook.Line.Split
import Phrasebook.Session.Basic

/-!
# The steps of a session

The beginning of the file is written by the first step that needs it. A package is opened
after the one before it has been closed, so packages are never nested. A message goes to
the package that is open, or to the file itself.

## Order of effects

Each step does its work in a fixed order, which shows when a write is refused.

* The beginning counts as written before it is written, so it is tried once.
* A package is no longer open when its closing is written.
* A package is open, and counted, once its opening has been written.
* A message is examined and remembered before its function is written, and counted after.
* A line is counted before it is read.
-/

namespace Phrasebook.Session

/-- Writes the beginning of the file, unless that has been done. -/
def begin (s : Session) : Outcome :=
  if s.started then .done s else { s with started := true }.write .preamble

/-- Closes the package that is open, if one is. -/
def closePackage (s : Session) : Outcome :=
  match s.scope with
  | none => .done s
  | some name => { s with scope := none }.write (.closing name)

/-- The session in which a package has been opened. -/
def enter (s : Session) (name : String) : Session :=
  { s with
    scope := some name
    summary := { s.summary with namespaces := s.summary.namespaces + 1 } }

/-- Closes the package that is open, if one is, and opens another one. -/
def openPackage (s : Session) (name : String) : Outcome :=
  s.begin.andThen fun s =>
  s.closePackage.andThen fun s =>
  (s.report (.openingPackage name)).andThen fun s =>
  (s.write (.opening name)).andThen fun s =>
  .done (s.enter name)

/-- The likely mistakes of a message that is about to be defined. -/
def findings (s : Session) (m : Message) : List Notice :=
  (if s.defined.contains (s.scope, m.name) then [.duplicateMessage m.name s.scope] else []) ++
    if m.unused.isEmpty then [] else [.unusedArguments m.name m.unused]

/-- Examines a message for likely mistakes and remembers it, if the options say so. -/
def examine (s : Session) (m : Message) : Outcome :=
  if s.options.lint then
    { session := { s with defined := s.defined.insert (s.scope, m.name) }
      trace := (s.findings m).map .notice }
  else .done s

/-- The session in which a function has been written. -/
def countFunction (s : Session) : Session :=
  { s with summary := { s.summary with functions := s.summary.functions + 1 } }

/-- Writes the function of a message. -/
def emit (s : Session) (m : Message) : Outcome :=
  s.begin.andThen fun s =>
  (s.examine m).andThen fun s =>
  (s.report (.generatingFunction m.name m.arity)).andThen fun s =>
  (s.write (.function m)).andThen fun s =>
  .done s.countFunction

/-- Closes the package that is open, if one is, and writes the end of the file. -/
def finish (s : Session) : Outcome :=
  s.begin.andThen fun s =>
  s.closePackage.andThen fun s =>
  s.write .postamble

/-! ### Definition lines -/

/-- The session in which a line has been counted. -/
def countLine (s : Session) : Session :=
  { s with summary := { s.summary with lines := s.summary.lines + 1 } }

/-- The session in which a line has been skipped. -/
def countSkipped (s : Session) : Session :=
  { s with summary := { s.summary with skipped := s.summary.skipped + 1 } }

/-- Skips a malformed line, or fails because of it if the options are strict. -/
def reject (s : Session) (number : Nat) (error : Malformed) : Outcome :=
  if s.options.strict then .fail s (.malformed number error)
  else
    (s.report (.lineSkipped number error)).andThen fun s =>
    .done s.countSkipped

/-- Does what the entry of a line asks for. -/
def enact (s : Session) (number : Nat) : Entry → Outcome
  | .nothing => .done s
  | .package name => s.openPackage name
  | .message m => s.emit m
  | .ignored tokens =>
    (s.report (.lineIgnored number tokens)).andThen fun s =>
    .done s.countSkipped

/-- Reads a line and does what it asks for. The number of the line only serves reports. -/
def readLine (s : Session) (number : Nat) (line : String) : Outcome :=
  match Entry.ofLine line with
  | .error error => s.countLine.reject number error
  | .ok entry => s.countLine.enact number entry

/-- Reads lines one after the other. A line that is no text ends the reading, and is not
counted. -/
def readLines (s : Session) (number : Nat) : List Bytes → Outcome
  | [] => .done s
  | raw :: rest =>
    match Utf8.decode? raw with
    | none => .fail s (.access .invalidText)
    | some line => (s.readLine number line).andThen fun s => s.readLines (number + 1) rest

/-- Reads the lines of a file, which may turn out not to be readable. -/
def readSource (s : Session) : Except AccessError Bytes → Outcome
  | .error error => .fail s (.access error)
  | .ok bytes => s.readLines 1 (Line.split bytes)

/-- Reads a whole file, and closes the package that is open at its end. -/
def readDefinitions (s : Session) (source : Except AccessError Bytes) : Outcome :=
  s.begin.andThen fun s =>
  (s.readSource source).andThen fun s =>
  s.closePackage

end Phrasebook.Session
