import Phrasebook.Session.Steps

/-!
# Compiling

A compilation is a session that reads one definition file and finishes the generated file.
-/

namespace Phrasebook

/-- Compiles a definition file, which may turn out not to be readable, for a sink with the
given admission rule. The output path only serves to name the include guard. -/
def compile (admission : Admission) (options : Options) (output : Option Path)
    (source : Except AccessError Bytes) : Outcome :=
  let s := Session.start (Layout.select options output) options admission
  (s.report (.targetSelected s.layout.target)).andThen fun s =>
  (s.readDefinitions source).andThen fun s =>
  s.finish

/-- Compiles a definition text to the generated text. -/
def compileText (options : Options) (input : String) : Except Failure String :=
  let outcome := compile .unlimited options none (.ok (Utf8.encode input))
  match outcome.failure with
  | some failure => .error failure
  | none => .ok outcome.written

end Phrasebook
