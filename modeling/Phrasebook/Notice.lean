import Phrasebook.Failure
import Phrasebook.Message
import Phrasebook.Options.Basic
import Phrasebook.Summary
import Phrasebook.Text.Quoted
import Phrasebook.Text.Terminal

/-!
# Notices

What a run reports while it goes on. A notice has a level, a message and named fields. As a
line of a log it is preceded by the part of the program that it comes from.
-/

namespace Phrasebook

/-- How much a notice matters. -/
inductive Level where
  | error
  | warn
  | info
  | debug
  | trace
  deriving DecidableEq, Repr

/-- The name of a level. -/
def Level.name : Level → String
  | .error => "ERROR"
  | .warn => "WARN"
  | .info => "INFO"
  | .debug => "DEBUG"
  | .trace => "TRACE"

/-- Something that a run reports. -/
inductive Notice where
  /-- A compilation for this target begins. -/
  | targetSelected (target : Target)
  /-- A package is about to be opened. -/
  | openingPackage (name : String)
  /-- A message has been defined before in the same scope. -/
  | duplicateMessage (message : String) (scope : Option String)
  /-- A message takes arguments that it does not use. -/
  | unusedArguments (message : String) (arguments : List Nat)
  /-- A function is about to be written. -/
  | generatingFunction (message : String) (arity : Nat)
  /-- A line has a number of tokens that means nothing. -/
  | lineIgnored (line tokens : Nat)
  /-- A malformed line is passed over. -/
  | lineSkipped (line : Nat) (error : Malformed)
  /-- The output path does not have an extension of the target. -/
  | unusualExtension (output : Path) (target : Target)
  /-- The message file could not be opened. -/
  | openFailed (path : Path) (error : AccessError)
  /-- The output file could not be created. -/
  | createFailed (path : Path) (error : AccessError)
  /-- A compilation of files begins. -/
  | compiling (messages output : Path)
  /-- A compilation of files has succeeded. -/
  | compiled (summary : Summary) (output : Path)
  deriving DecidableEq, Repr

/-- The value of a field of a notice. -/
inductive FieldValue where
  | number (n : Nat)
  | text (s : String)
  /-- A text that is quoted in a log line. -/
  | quoted (s : String)
  deriving DecidableEq, Repr

/-- How a value is written in a log line. -/
def FieldValue.shown : FieldValue → String
  | .number n => toString n
  | .text s => s
  | .quoted s => Text.quoted s

namespace Notice

/-- The level of a notice. -/
def level : Notice → Level
  | .targetSelected _ | .openingPackage _ | .generatingFunction _ _ => .debug
  | .duplicateMessage _ _ | .unusedArguments _ _ | .lineSkipped _ _ | .unusualExtension _ _ => .warn
  | .lineIgnored _ _ => .trace
  | .openFailed _ _ | .createFailed _ _ => .error
  | .compiling _ _ | .compiled _ _ => .info

/-- Whether a notice comes from the examination of a message for likely mistakes. -/
def isLint : Notice → Bool
  | .duplicateMessage _ _ | .unusedArguments _ _ => true
  | _ => false

/-- The message of a notice. -/
def message : Notice → String
  | .targetSelected _ => "Selected renderer"
  | .openingPackage _ => "Opening namespace"
  | .duplicateMessage name _ =>
    "Message '" ++ name ++ "' is defined more than once in the same scope"
  | .unusedArguments name arguments =>
    "Message '" ++ name ++ "' declares parameters it never uses: " ++
      ", ".intercalate (arguments.map Message.valueName)
  | .generatingFunction _ _ => "Generating function"
  | .lineIgnored _ _ => "Ignoring line"
  | .lineSkipped line error =>
    "Skipping malformed line " ++ toString line ++ ": " ++ error.message
  | .unusualExtension output target =>
    "Output file " ++ output.display ++ " does not look like " ++ target.displayName ++
      " source (expected ." ++ target.preferredExtension ++ ")"
  | .openFailed _ _ => "Failed to open message file"
  | .createFailed _ _ => "Failed to create output file"
  | .compiling messages output =>
    "Generating output file " ++ output.display ++ " for message file " ++ messages.display
  | .compiled _ _ => "Successfully generated messages"

/-- How the scope outside of any package is called. -/
def globalScope : String := "<global>"

/-- The fields of a notice, in the order in which they are shown. -/
def fields : Notice → List (String × FieldValue)
  | .targetSelected target => [("target_language", .text target.name)]
  | .openingPackage name => [("namespace", .text name)]
  | .duplicateMessage name scope =>
    [("function", .text name), ("namespace", .quoted (scope.getD globalScope))]
  | .unusedArguments name _ => [("function", .text name)]
  | .generatingFunction name arity => [("function", .text name), ("parameters", .number arity)]
  | .lineIgnored line tokens => [("line", .number line), ("tokens", .number tokens)]
  | .lineSkipped line _ => [("line", .number line)]
  | .unusualExtension output _ => [("output_path", .text output.display)]
  | .openFailed path error => [("path", .text path.display), ("error", .text error.text)]
  | .createFailed path error => [("path", .text path.display), ("error", .text error.text)]
  | .compiling _ _ => []
  | .compiled summary output =>
    [("namespaces", .number summary.namespaces), ("functions", .number summary.functions),
      ("skipped", .number summary.skipped), ("output_path", .text output.display)]

/-- The part of the program that a log line names for a notice. -/
def origin : Notice → String
  | .targetSelected _ | .unusualExtension _ _ => "messagec::application::compile_messages"
  | .openingPackage _ | .duplicateMessage _ _ | .unusedArguments _ _ | .generatingFunction _ _ =>
    "messagec::generation::context"
  | .lineIgnored _ _ | .lineSkipped _ _ => "messagec::definition::parser"
  | .openFailed _ _ | .createFailed _ _ =>
    "messagec::infrastructure::output::filesystem_output"
  | .compiling _ _ | .compiled _ _ => "messagec"

/-- The line of a log for a notice. Its message gives a terminal no commands, and its fields
stand as they are. -/
def logLine (n : Notice) : String :=
  n.level.name ++ " " ++ n.origin ++ ": " ++ Text.forTerminal n.message ++
    String.join (n.fields.map fun field => " " ++ field.1 ++ "=" ++ field.2.shown)

end Notice

end Phrasebook
