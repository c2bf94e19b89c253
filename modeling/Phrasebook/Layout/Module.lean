import Phrasebook.Message

/-!
# Rust modules

How the generated file is spelled as a Rust module. Every message becomes a function that
pushes its parts onto a string; the types of its arguments are generic over what can be
displayed. An argument that the body does not use has an underscore before its name, so
that the generated file compiles without warnings.
-/

namespace Phrasebook.Module

/-- The beginning of a module file. -/
def preamble : String :=
  "// @generated by messagec. Do not edit by hand.\n"

/-- The opening of an inner module. -/
def opening (name : String) : String :=
  "\npub mod " ++ name ++ " \x7b\n"

/-- The closing of an inner module. -/
def closing (name : String) : String :=
  "\n\x7d // mod " ++ name ++ "\n"

/-- The name of an argument where it is used. -/
def argumentName (index : Nat) : String :=
  "p" ++ toString index

/-- The generic types of a function, if it takes arguments. -/
def generics (m : Message) : String :=
  if m.isGeneric then
    "<" ++
      ", ".intercalate (m.arguments.map fun i => Message.typeName i ++ ": std::fmt::Display") ++ ">"
  else ""

/-- The declared name of an argument: marked if the body does not use it. -/
def declaredName (m : Message) (index : Nat) : String :=
  (if m.uses index then "" else "_") ++ argumentName index

/-- The line that declares a function. -/
def signature (m : Message) : String :=
  "pub fn " ++ m.name ++ generics m ++ "(" ++
    ", ".intercalate (m.arguments.map fun i => declaredName m i ++ ": " ++ Message.typeName i) ++
    ") -> String \x7b\n"

/-- The statement that pushes a part. -/
def statement : Part → String
  | .literal text => "    out.push_str(\"" ++ text ++ "\");\n"
  | .argument index => "    out.push_str(&" ++ argumentName index ++ ".to_string());\n"

/-- The statements of a function. -/
def statements (body : List Part) : String :=
  if body.isEmpty then "    String::new()\n"
  else
    "    let mut out = String::new();\n" ++ String.join (body.map statement) ++ "    out\n"

/-- The function of a message. -/
def function (m : Message) : String :=
  "\n" ++ signature m ++ statements m.body ++ "\x7d\n"

end Phrasebook.Module
