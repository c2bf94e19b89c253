import Phrasebook.CommandLine.Arguments
import Phrasebook.CommandLine.Problem
import Phrasebook.Files.Request

/-!
# Running the command line

A run loads the options file, if one is given, lets the arguments override it, and carries
out the request. It stops at the first problem. Its *transcript* is all that can be seen of
it, the files apart.
-/

namespace Phrasebook.CommandLine

/-- The help text. -/
def helpText : String :=
  "Compile message definition files into typed, generic message formatting functions\n\n" ++
  "Usage: messagec [OPTIONS] --msgfile <MESSAGE FILE> --hppfile <GENERATED FILE>\n\n" ++
  "Options:\n" ++
  "      --msgfile <MESSAGE FILE>    Message definition file to compile\n" ++
  "      --hppfile <GENERATED FILE>  Generated output file\n" ++
  "      --config <CONFIG>           TOML file with compiler options\n" ++
  "      --target <TARGET>           Output language: cpp or rust\n" ++
  "      --guard <GUARD>             Include guard style for C++ output: pragma or ifndef\n" ++
  "      --strict                    Fail on malformed lines instead of skipping them\n" ++
  "      --no-lint                   Do not warn about duplicate names or unused parameters\n" ++
  "  -v, --verbose                   Enable debug logging\n" ++
  "  -h, --help                      Print help\n" ++
  "  -V, --version                   Print version\n"

/-- The version text. -/
def versionText : String :=
  "messagec 0.1.0\n"

/-- What is told about arguments that cannot be accepted. -/
def usageText : String :=
  "error: invalid arguments\n\n" ++
  "Usage: messagec [OPTIONS] --msgfile <MESSAGE FILE> --hppfile <GENERATED FILE>\n\n" ++
  "For more information, try '--help'."

/-- How a run ends. -/
inductive Ending where
  | success
  | problem
  | misuse
  deriving DecidableEq, Repr

/-- The exit code of an ending. -/
def Ending.exitCode : Ending → Nat
  | .success => 0
  | .problem => 1
  | .misuse => 2

/-- All that can be seen of a run, the files apart. -/
structure Transcript where
  ending : Ending
  notices : List Notice := []
  output : String := ""
  complaint : String := ""
  deriving DecidableEq, Repr

/-- Whether a notice is shown. -/
def isShown (verbose : Bool) (n : Notice) : Bool :=
  match n.level with
  | .error | .warn | .info => true
  | .debug => verbose
  | .trace => false

namespace Arguments

/-- The options with those overridden that the arguments give. -/
def override (a : Arguments) (options : Options) : Except Problem Options := do
  let target ← match a.target with
    | none => pure options.target
    | some name => (Target.ofName name).mapError (.target name)
  let guard ← match a.guard with
    | none => pure options.guard
    | some name => (GuardStyle.ofName name).mapError (.guard name)
  return { target, guard, strict := options.strict || a.strict, lint := options.lint && !a.noLint }

variable {m : Type → Type} {Handle : Type} [Monad m]

/-- The options before the arguments override them. -/
def baseOptions (files : FileAccess m Handle) (a : Arguments) : m (Except Problem Options) := do
  match a.config with
  | none => return .ok {}
  | some path => return (← loadOptions files path).mapError (.config path)

/-- The options of a run. -/
def options (files : FileAccess m Handle) (a : Arguments) : m (Except Problem Options) := do
  match ← a.baseOptions files with
  | .error problem => return .error problem
  | .ok base => return a.override base

/-- The request that the arguments make. -/
def request (a : Arguments) (options : Options) : Request :=
  { messages := a.messages, output := a.output, options }

/-- The transcript of a request that has been carried out. -/
def transcript (a : Arguments) (request : Request) (report : Report) : Transcript :=
  let before := Notice.compiling request.messages request.output :: report.notices
  match report.result with
  | .error failure =>
    { ending := .problem
      notices := before.filter (isShown a.verbose)
      complaint := (Problem.compilation request.messages request.output failure).text }
  | .ok summary =>
    { ending := .success
      notices := (before ++ [Notice.compiled summary request.output]).filter (isShown a.verbose) }

/-- Runs a compilation. -/
def run (files : FileAccess m Handle) (a : Arguments) : m Transcript := do
  match ← a.options files with
  | .error problem => return { ending := .problem, complaint := problem.text }
  | .ok options =>
    let request := a.request options
    return a.transcript request (← request.execute files)

end Arguments

/-- Runs the command line. -/
def run {m : Type → Type} {Handle : Type} [Monad m] (files : FileAccess m Handle)
    (args : List Bytes) : m Transcript :=
  match Invocation.ofArguments args with
  | .misused => pure { ending := .misuse, complaint := usageText }
  | .help => pure { ending := .success, output := helpText }
  | .version => pure { ending := .success, output := versionText }
  | .compile arguments => arguments.run files

end Phrasebook.CommandLine
