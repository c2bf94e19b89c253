import Phrasebook.CommandLine.Run

/-!
# The program

Gives the command line the files of the system, and shows its transcript.
-/

namespace Phrasebook.Main

/-- The number and the wording of a system error, as far as they are known. -/
def accessError (e : IO.Error) : AccessError :=
  match e with
  | .noFileOrDirectory _ _ _ => .notFound
  | .inappropriateType _ 20 _ => .notADirectory
  | .inappropriateType _ 21 _ => .isADirectory
  | .inappropriateType _ code details => .other code.toNat details
  | .permissionDenied _ code details => .other code.toNat details
  | .resourceExhausted _ code details => .other code.toNat details
  | .invalidArgument _ code details => .other code.toNat details
  | .otherError code details => .other code.toNat details
  | e => .other 0 (toString e)

/-- Runs an action and tells how it failed, if it did. -/
def attempt (action : IO α) : IO (Except AccessError α) := do
  match ← action.toBaseIO with
  | .ok a => return .ok a
  | .error e => return .error (accessError e)

/-- The operations on the files of the system. -/
def fileAccess : FileAccess IO IO.FS.Handle where
  openSource p := attempt (IO.FS.Handle.mk p.display .read)
  readAll handle := attempt (return (← handle.readBinToEnd).toList)
  create p := attempt (IO.FS.Handle.mk p.display .write)
  fill handle content := attempt do
    handle.write content.toByteArray
    handle.flush

end Phrasebook.Main

/-- Runs the command line on the files of the system. -/
def main (args : List String) : IO UInt32 := do
  let transcript ←
    Phrasebook.CommandLine.run Phrasebook.Main.fileAccess (args.map Phrasebook.Utf8.encode)
  for notice in transcript.notices do
    IO.eprintln notice.logLine
  IO.print transcript.output
  unless transcript.complaint.isEmpty do
    IO.eprintln transcript.complaint
  return UInt32.ofNat transcript.ending.exitCode
