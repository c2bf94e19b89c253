import Phrasebook.Compile
import Phrasebook.Files.Access
import Phrasebook.Options.Decode

/-!
# Requests on files

Options are loaded from a file, and a message file is compiled to an output file.

## Order of effects

The output file is created once the message file has been opened, and filled with whatever
was written, also if the compilation fails. Creating the output empties it before the
message file is read. Where both paths name the same file, that file is therefore read as
empty; a request refuses two equivalent paths before it touches any file.
-/

namespace Phrasebook

variable {m : Type → Type} {Handle : Type} [Monad m]

/-- Loads options from a file. -/
def loadOptions (files : FileAccess m Handle) (path : Path) : m (Except Failure Options) := do
  match ← files.openSource path with
  | .error error => return .error (.access error)
  | .ok handle =>
    match ← files.readAll handle with
    | .error error => return .error (.access error)
    | .ok bytes =>
      match Utf8.decode? bytes with
      | none => return .error (.access .invalidText)
      | some document => return (Options.ofDocument document).mapError .options

/-- What a compilation of files reported, and its summary or its failure. -/
structure Report where
  notices : List Notice
  result : Except Failure Summary

/-- The notice that an output path is unusual for its target, if it is. -/
def extensionNotices (target : Target) (output : Path) : List Notice :=
  if target.matchesPath output then [] else [.unusualExtension output target]

/-- Compiles a message file to an output file. -/
def compileFile (files : FileAccess m Handle) (messages output : Path) (options : Options) :
    m Report := do
  let first := extensionNotices options.target output
  match ← files.openSource messages with
  | .error error =>
    return { notices := first ++ [.openFailed messages error], result := .error (.access error) }
  | .ok source =>
    match ← files.create output with
    | .error error =>
      return { notices := first ++ [.createFailed output error], result := .error (.access error) }
    | .ok target =>
      let outcome := compile .unlimited options (some output) (← files.readAll source)
      let notices := first ++ outcome.notices
      match ← files.fill target (Utf8.encode outcome.written) with
      | .error error => return { notices, result := .error (.access error) }
      | .ok () => return { notices, result := outcome.result }

/-- A request to compile a message file to an output file. -/
structure Request where
  messages : Path
  output : Path
  options : Options := {}
  deriving DecidableEq, Repr

namespace Request

/-- Refuses a request whose output would replace its message file, as far as the two paths
show it. -/
def validate (r : Request) : Except Failure Unit :=
  if r.messages.equivalent r.output then .error (.overwrites r.output) else .ok ()

/-- Carries out a request. -/
def execute (files : FileAccess m Handle) (r : Request) : m Report :=
  match r.validate with
  | .error failure => pure { notices := [], result := .error failure }
  | .ok () => compileFile files r.messages r.output r.options

end Request

end Phrasebook
