import Phrasebook.Message
import Phrasebook.Options.Basic

/-!
# C++ headers

How the generated file is spelled as a C++ header. Every message becomes an inline function
that puts its text together in a string stream; a message that takes arguments is a
template over their types.
-/

namespace Phrasebook.Header

/-- The beginning of a header, up to its first declaration. -/
def preamble (style : GuardStyle) (guard : String) : String :=
  (match style with
    | .pragma => "#pragma once\n"
    | .ifndef => "#ifndef " ++ guard ++ "\n#define " ++ guard ++ "\n") ++
    "#include <string>\n#include <sstream>\n"

/-- The end of a header, after its last declaration. -/
def postamble (style : GuardStyle) (guard : String) : String :=
  match style with
  | .pragma => ""
  | .ifndef => "\n#endif // " ++ guard ++ "\n"

/-- The opening of a namespace. -/
def opening (name : String) : String :=
  "\nnamespace " ++ name ++ " \x7b\n"

/-- The closing of a namespace. -/
def closing (name : String) : String :=
  "\n\x7d // namespace " ++ name ++ "\n"

/-- The line that makes a function a template, if it takes arguments. -/
def templateLine (m : Message) : String :=
  if m.isGeneric then
    "template <" ++ ", ".intercalate (m.arguments.map fun i => "typename " ++ Message.typeName i) ++
      ">\n"
  else ""

/-- The line that declares a function. -/
def signature (m : Message) : String :=
  "inline std::string " ++ m.name ++ "(" ++
    ", ".intercalate (m.arguments.map fun i => Message.typeName i ++ " " ++ Message.valueName i) ++
    ")\n"

/-- What is put into the stream for a part. -/
def operand : Part → String
  | .literal text => "\"" ++ text ++ "\""
  | .argument index => Message.valueName index

/-- The line that fills the stream, unless there is nothing to put into it. -/
def streamLine (body : List Part) : String :=
  if body.isEmpty then ""
  else "    out << " ++ " << ".intercalate (body.map operand) ++ ";\n"

/-- The function of a message. -/
def function (m : Message) : String :=
  "\n" ++ templateLine m ++ signature m ++ "\x7b\n    std::ostringstream out;\n" ++
    streamLine m.body ++ "    return out.str();\n\x7d\n"

end Phrasebook.Header
