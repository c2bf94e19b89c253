import Phrasebook.Failure
import Phrasebook.Options.Basic

/-!
# Problems of the command line

What is told when a run from the command line does not succeed: what could not be done, and
below it the chain of its causes. A single cause stands alone, and several are numbered.
Where a cause takes several lines, these are set in as far as its first one.
-/

namespace Phrasebook

/-- Whether a failure has a cause of its own below it. -/
def Failure.isNested : Failure → Bool
  | .access _ | .malformed _ _ | .options _ => true
  | .overwrites _ => false

namespace CommandLine

/-- Why a run from the command line did not succeed. -/
inductive Problem where
  | config (path : Path) (failure : Failure)
  | target (name : String) (error : UnknownName)
  | guard (name : String) (error : UnknownName)
  | compilation (messages output : Path) (failure : Failure)
  deriving DecidableEq, Repr

/-- A text whose lines but the first are set in. -/
def setIn (columns : Nat) (s : String) : String :=
  String.ofList
    (s.toList.flatMap fun c => if c = '\n' then '\n' :: List.replicate columns ' ' else [c])

/-- The chain of causes of a failure, below what could not be done. -/
def causes (failure : Failure) : String :=
  "\n\nCaused by:\n" ++
    if failure.isNested then
      "    0: " ++ setIn 7 failure.message ++
        (match failure.cause? with
          | some cause => "\n    1: " ++ setIn 7 cause
          | none => "")
    else "    " ++ setIn 4 failure.message

/-- The text of a problem. -/
def Problem.text : Problem → String
  | .config path failure =>
    "Error: Failed to load config " ++ path.display ++ causes failure
  | .target name error => "Error: Invalid target '" ++ name ++ "': " ++ error.message
  | .guard name error => "Error: Invalid guard '" ++ name ++ "': " ++ error.message
  | .compilation messages output failure =>
    "Error: Failed to compile " ++ messages.display ++ " into " ++ output.display ++
      causes failure

end CommandLine

end Phrasebook
