import Phrasebook.Line.Malformed
import Phrasebook.Options.Fault
import Phrasebook.Path

/-!
# Failures

What ends a run. A failure has a message, and some failures have a cause whose own text is
told once more below it.
-/

namespace Phrasebook

/-- Why a file or a sink could not be used. -/
inductive AccessError where
  | notFound
  | notADirectory
  | isADirectory
  /-- What was read is no text. -/
  | invalidText
  /-- The sink refused what was written. -/
  | sinkFull
  /-- Any other error, by the number and the wording that the system has for it. -/
  | other (code : Nat) (wording : String)
  deriving DecidableEq, Repr

/-- The wording of a system error, with its number. -/
def AccessError.systemText (code : Nat) (wording : String) : String :=
  wording ++ " (os error " ++ toString code ++ ")"

/-- The wording of an error. -/
def AccessError.text : AccessError → String
  | .notFound => systemText 2 "No such file or directory"
  | .notADirectory => systemText 20 "Not a directory"
  | .isADirectory => systemText 21 "Is a directory"
  | .invalidText => "stream did not contain valid UTF-8"
  | .sinkFull => "sink full"
  | .other code wording => systemText code wording

/-- What ends a run. -/
inductive Failure where
  /-- A file or a sink could not be used. -/
  | access (error : AccessError)
  /-- A line is malformed, and the options do not let it be skipped. -/
  | malformed (line : Nat) (error : Malformed)
  /-- The output would replace the file that is read. -/
  | overwrites (output : Path)
  /-- The options file is refused. -/
  | options (fault : Options.Fault)
  deriving DecidableEq, Repr

namespace Failure

/-- The message of a failure. The rest of the message of a refused options file, which is
set over several lines, is not part of it. -/
def message : Failure → String
  | .access error => "I/O error: " ++ error.text
  | .malformed line error =>
    "Definition error on line " ++ toString line ++ ": " ++ error.message
  | .overwrites output =>
    "Configuration error: Output file " ++ output.display ++ " would overwrite the message file"
  | .options _ => "Configuration parsing error:"

/-- The text of the cause of a failure, if it has one of its own. -/
def cause? : Failure → Option String
  | .access error => some error.text
  | .malformed _ error => some error.message
  | .overwrites _ => none
  | .options _ => none

end Failure

end Phrasebook
