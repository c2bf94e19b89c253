import Mathlib.Data.List.Nodup
import Phrasebook.Layout.Basic
import Phrasebook.Proofs.Messages

/-!
# Names in generated functions

A layout declares the arguments of a function and uses them in its body. What it declares comes from
the number of arguments that the message takes and from the arguments that are unused; what it uses
comes from the indices in the template. This module says that the two agree.

The text of a function is taken apart into its *outline*: the types that it is generic over, the
names of its arguments with their types, and what it puts together, each a literal or the value of a
name (`Layout.outline`). Both layouts have outlines of the same kind and only spell them
differently. An outline is *closed* if no name is declared twice and every value that is put into
the text has been declared. That outlines are closed rests on the normal form of messages, which
have no index beyond the arguments that they take, and on the fact that numbers are told apart by
their digits.

In a module an argument is marked as unused by an underscore before its name, which is therefore
another name. It is marked exactly if its plain name is not put into the text.

## Main results

* `Layout.text_function`: the text of a function is that of its outline.
* `Layout.outline_closed`: the outline of a message in normal form is closed.
* `functions_closed`: the functions of templates are closed, and how their arguments are called.
-/

namespace Phrasebook

/-- What a function puts into its text: literal text, or the value of a name. -/
inductive Operand where
  | literal (text : String)
  | value (name : String)
  deriving DecidableEq, Repr

/-- A function that has been taken apart: the types that it is generic over, the names of its
arguments, each with its type, and what it puts together. -/
structure Outline where
  types : List String
  arguments : List (String × String)
  body : List Operand
  deriving DecidableEq, Repr

namespace Outline

/-- The names of the arguments. -/
def names (o : Outline) : List String :=
  o.arguments.map Prod.fst

/-- No name and no type is declared twice, the arguments have the types that the function is generic
over, in the same order, and every value that is put into the text is that of an argument. -/
structure Closed (o : Outline) : Prop where
  names_nodup : o.names.Nodup
  types_nodup : o.types.Nodup
  types_eq : o.arguments.map Prod.snd = o.types
  declared : ∀ name, Operand.value name ∈ o.body → name ∈ o.names

/-! ### Spelling -/

/-- The line that makes a C++ function a template, if it is generic. -/
def templateLine (o : Outline) : String :=
  if o.types.isEmpty then ""
  else "template <" ++ ", ".intercalate (o.types.map fun type => "typename " ++ type) ++ ">\n"

/-- What is put into the stream of a C++ function. -/
def streamed : Operand → String
  | .literal text => "\"" ++ text ++ "\""
  | .value name => name

/-- The line that fills the stream of a C++ function, unless there is nothing to put into it. -/
def streamLine (o : Outline) : String :=
  if o.body.isEmpty then ""
  else "    out << " ++ " << ".intercalate (o.body.map streamed) ++ ";\n"

/-- The text of a C++ function. -/
def inHeader (o : Outline) (name : String) : String :=
  "\n" ++ o.templateLine ++
    ("inline std::string " ++ name ++ "(" ++
      ", ".intercalate (o.arguments.map fun argument => argument.2 ++ " " ++ argument.1) ++ ")\n") ++
    "\x7b\n    std::ostringstream out;\n" ++ o.streamLine ++ "    return out.str();\n\x7d\n"

/-- The generic types of a Rust function, if it has any. -/
def generics (o : Outline) : String :=
  if o.types.isEmpty then ""
  else "<" ++ ", ".intercalate (o.types.map fun type => type ++ ": std::fmt::Display") ++ ">"

/-- The statement of a Rust function that pushes something. -/
def pushed : Operand → String
  | .literal text => "    out.push_str(\"" ++ text ++ "\");\n"
  | .value name => "    out.push_str(&" ++ name ++ ".to_string());\n"

/-- The statements of a Rust function. -/
def statements (o : Outline) : String :=
  if o.body.isEmpty then "    String::new()\n"
  else "    let mut out = String::new();\n" ++ String.join (o.body.map pushed) ++ "    out\n"

/-- The text of a Rust function. -/
def inModule (o : Outline) (name : String) : String :=
  "\n" ++
    ("pub fn " ++ name ++ o.generics ++ "(" ++
      ", ".intercalate (o.arguments.map fun argument => argument.1 ++ ": " ++ argument.2) ++
      ") -> String \x7b\n") ++
    o.statements ++ "\x7d\n"

/-- The text of a function in a layout. -/
def text (o : Outline) (name : String) : Layout → String
  | .header _ _ => o.inHeader name
  | .rustModule => o.inModule name

end Outline

namespace Layout

/-- The name of an argument where it is declared. -/
def declaredName : Layout → Message → Nat → String
  | .header _ _, _, index => Message.valueName index
  | .rustModule, m, index => Module.declaredName m index

/-- The name of an argument where it is used. -/
def usedName : Layout → Nat → String
  | .header _ _, index => Message.valueName index
  | .rustModule, index => Module.argumentName index

/-- What a part of a body puts into the text. -/
def operand (layout : Layout) : Part → Operand
  | .literal text => .literal text
  | .argument index => .value (layout.usedName index)

/-- The outline of the function of a message. -/
def outline (layout : Layout) (m : Message) : Outline where
  types := m.arguments.map Message.typeName
  arguments := m.arguments.map fun i => (layout.declaredName m i, Message.typeName i)
  body := m.body.map layout.operand

/-! ### The text of an outline -/

/-- A function is generic if it takes arguments. -/
theorem isEmpty_types_outline (layout : Layout) (m : Message) :
    (layout.outline m).types.isEmpty = !m.isGeneric := by
  rw [outline, List.isEmpty_map, Message.arguments, Message.isGeneric]
  cases m.arity <;> simp

/-- What is written only if a function is generic. -/
theorem ite_types_outline (layout : Layout) (m : Message) (text : String) :
    (if (layout.outline m).types.isEmpty then "" else text) = if m.isGeneric then text else "" := by
  rw [isEmpty_types_outline]
  cases m.isGeneric <;> rfl

section

variable (style : GuardStyle) (guard : String) (m : Message)

/-- The template line of a header is that of the outline. -/
theorem templateLine_outline :
    ((header style guard).outline m).templateLine = Header.templateLine m := by
  rw [Outline.templateLine, ite_types_outline, outline, List.map_map]
  rfl

/-- The line that fills the stream of a header is that of the outline. -/
theorem streamLine_outline :
    ((header style guard).outline m).streamLine = Header.streamLine m.body := by
  have hstreamed : Outline.streamed ∘ (header style guard).operand = Header.operand := by
    funext part
    cases part <;> rfl
  rw [Outline.streamLine, outline, List.isEmpty_map, List.map_map, hstreamed]
  rfl

/-- The text of a function in a header is that of its outline. -/
theorem inHeader_outline :
    ((header style guard).outline m).inHeader m.name = Header.function m := by
  rw [Outline.inHeader, templateLine_outline, streamLine_outline, outline, List.map_map]
  rfl

/-- The generics of a module are those of the outline. -/
theorem generics_outline : (rustModule.outline m).generics = Module.generics m := by
  rw [Outline.generics, ite_types_outline, outline, List.map_map]
  rfl

/-- The statements of a module are those of the outline. -/
theorem statements_outline : (rustModule.outline m).statements = Module.statements m.body := by
  have hpushed : Outline.pushed ∘ rustModule.operand = Module.statement := by
    funext part
    cases part <;> rfl
  rw [Outline.statements, outline, List.isEmpty_map, List.map_map, hpushed]
  rfl

/-- The text of a function in a module is that of its outline. -/
theorem inModule_outline : (rustModule.outline m).inModule m.name = Module.function m := by
  rw [Outline.inModule, generics_outline, statements_outline, outline, List.map_map]
  rfl

end

/-- **The text of a function is that of its outline.** -/
theorem text_function (layout : Layout) (m : Message) :
    layout.text (.function m) = (layout.outline m).text m.name layout := by
  cases layout with
  | header style guard => exact (inHeader_outline style guard m).symm
  | rustModule => exact (inModule_outline m).symm

/-! ### Declared and used names -/

/-- Numbers are told apart by their digits, whatever stands before these. -/
theorem numbered_injective (mark : String) :
    Function.Injective fun index : Nat => mark ++ toString index := by
  intro i j h
  have hdigits : toString i = toString j := (String.append_right_inj mark).mp h
  rw [← Template.decimal_toString i, hdigits, Template.decimal_toString]

/-- No two arguments are used under one name. -/
theorem usedName_injective (layout : Layout) : Function.Injective layout.usedName := by
  cases layout with
  | header style guard => exact numbered_injective "P"
  | rustModule => exact numbered_injective "p"

/-- In a module, an argument that is used is declared under the name that it is used by. -/
theorem declaredName_of_uses {m : Message} {i : Nat} (h : m.uses i = true) :
    Module.declaredName m i = Module.argumentName i := by
  rw [Module.declaredName, if_pos h, String.empty_append]

/-- In a module, an unused argument is declared with an underscore in front of its name. -/
theorem declaredName_of_not_uses {m : Message} {i : Nat} (h : ¬ m.uses i = true) :
    Module.declaredName m i = "_" ++ Module.argumentName i := by
  rw [Module.declaredName, if_neg h]

/-- In a module, an unused argument has another name than any that is used. -/
theorem marked_ne_argumentName (i j : Nat) :
    "_" ++ Module.argumentName i ≠ Module.argumentName j := by
  intro h
  have hlists := congrArg String.toList h
  simp [Module.argumentName] at hlists

/-- No two arguments are declared under one name. -/
theorem declaredName_injective (layout : Layout) (m : Message) :
    Function.Injective (layout.declaredName m) := by
  cases layout with
  | header style guard => exact numbered_injective "P"
  | rustModule =>
      intro i j h
      change Module.declaredName m i = Module.declaredName m j at h
      by_cases hi : m.uses i = true
      · by_cases hj : m.uses j = true
        · rw [declaredName_of_uses hi, declaredName_of_uses hj] at h
          exact numbered_injective "p" h
        · rw [declaredName_of_uses hi, declaredName_of_not_uses hj] at h
          exact absurd h.symm (marked_ne_argumentName j i)
      · by_cases hj : m.uses j = true
        · rw [declaredName_of_not_uses hi, declaredName_of_uses hj] at h
          exact absurd h (marked_ne_argumentName i j)
        · rw [declaredName_of_not_uses hi, declaredName_of_not_uses hj] at h
          exact numbered_injective "p" ((String.append_right_inj "_").mp h)

/-- The names of an outline are those that the arguments are declared under. -/
theorem names_outline (layout : Layout) (m : Message) :
    (layout.outline m).names = m.arguments.map (layout.declaredName m) := by
  rw [Outline.names, outline, List.map_map]
  rfl

/-- A value is put into the text if the message refers to the argument of that name. -/
theorem value_mem_body_iff (layout : Layout) {m : Message} {name : String} :
    .value name ∈ (layout.outline m).body ↔ ∃ i ∈ m.references, layout.usedName i = name := by
  rw [outline, List.mem_map]
  constructor
  · rintro ⟨part, hpart, hname⟩
    cases part with
    | literal text => cases hname
    | argument i =>
        exact ⟨i, Message.mem_references_iff.mpr hpart, Operand.value.inj hname⟩
  · rintro ⟨i, hi, rfl⟩
    exact ⟨.argument i, Message.mem_references_iff.mp hi, rfl⟩

/-- An argument that is used is declared under the name under which it is used. -/
theorem declaredName_eq_usedName (layout : Layout) {m : Message} {i : Nat}
    (h : i ∈ m.references) : layout.declaredName m i = layout.usedName i := by
  cases layout with
  | header style guard => rfl
  | rustModule => exact declaredName_of_uses (Message.uses_iff.mpr h)

/-- **The outline of a message in normal form is closed.** -/
theorem outline_closed (layout : Layout) {m : Message} (h : m.Normal) :
    (layout.outline m).Closed := by
  refine ⟨?_, ?_, ?_, ?_⟩
  · rw [names_outline]
    exact List.Nodup.map (layout.declaredName_injective m) List.nodup_range
  · exact List.Nodup.map (numbered_injective "T") List.nodup_range
  · rw [outline, List.map_map]
    rfl
  · intro name hname
    obtain ⟨i, hi, rfl⟩ := layout.value_mem_body_iff.mp hname
    rw [names_outline, List.mem_map]
    exact ⟨i, List.mem_range.mpr (h.index_lt i hi), layout.declaredName_eq_usedName hi⟩

end Layout

/-! ### The main result -/

/-- **The functions of templates are closed.** Take any template that is accepted, the message that
it makes under any name, and its function in any layout.

* The text of the function is that of its outline. No two arguments have the same name or the same
  type, the arguments have the types over which the function is generic, in the same order, and
  every value that is put into the text is that of an argument.
* In a header, the arguments are called `P0`, `P1` and so on, and have the types `T0`, `T1` and so
  on.
* In a module, argument `i` is called `p<i>` if the statement that pushes `p<i>` stands in the body,
  and `_p<i>` otherwise. -/
theorem functions_closed (source name : String) (segments : List Segment)
    (h : Template.read source = .ok segments) :
    let m := Message.ofSegments name segments
    (∀ layout : Layout,
      layout.text (.function m) = (layout.outline m).text name layout ∧
        (layout.outline m).Closed) ∧
    (∀ (style : GuardStyle) (guard : String),
      ((Layout.header style guard).outline m).arguments =
        (List.range m.arity).map fun i => ("P" ++ toString i, "T" ++ toString i)) ∧
    (Layout.rustModule.outline m).names =
      (List.range m.arity).map fun i =>
        if .value ("p" ++ toString i) ∈ (Layout.rustModule.outline m).body then "p" ++ toString i
        else "_p" ++ toString i := by
  intro m
  have hnormal : m.Normal := (Template.normal_of_read h).message name
  refine ⟨fun layout => ⟨layout.text_function m, layout.outline_closed hnormal⟩, ?_, ?_⟩
  · intro style guard
    rfl
  · rw [Layout.names_outline]
    refine List.map_congr_left fun i _ => ?_
    have hpushed : .value ("p" ++ toString i) ∈ (Layout.rustModule.outline m).body ↔
        i ∈ m.references := by
      rw [Layout.value_mem_body_iff]
      constructor
      · rintro ⟨j, hj, hname⟩
        exact Layout.rustModule.usedName_injective hname ▸ hj
      · intro hi
        exact ⟨i, hi, rfl⟩
    by_cases hi : m.uses i = true
    · rw [if_pos (hpushed.mpr (Message.uses_iff.mp hi))]
      exact Layout.declaredName_of_uses hi
    · have hmark : "_" ++ Module.argumentName i = "_p" ++ toString i := by
        rw [Module.argumentName, ← String.append_assoc]
        rfl
      rw [if_neg fun hmem => hi (Message.uses_iff.mpr (hpushed.mp hmem)), ← hmark]
      exact Layout.declaredName_of_not_uses hi

/-- A template that refers to its last argument first and twice, and skips one; a literal in it looks
like the statement that would push the argument that is skipped. -/
theorem functions_closed_gap :
    let source := "\x7b2\x7dout.push_str(&p1.to_string());\x7b0\x7d\x7b2\x7d"
    let segments : List Segment :=
      [⟨"", some 2⟩, ⟨"out.push_str(&p1.to_string());", some 0⟩, ⟨"", some 2⟩]
    let m := Message.ofSegments "m" segments
    let inModule := Layout.rustModule.outline m
    let inHeader := (Layout.header .pragma "M_HPP").outline m
    Template.read source = .ok segments ∧
      (Layout.rustModule.text (.function m) = inModule.text "m" .rustModule ∧ inModule.Closed) ∧
      inModule.names = ["p0", "_p1", "p2"] ∧ inHeader.Closed ∧
      inHeader.arguments = [("P0", "T0"), ("P1", "T1"), ("P2", "T2")] := by
  intro source segments m inModule inHeader
  have hread : Template.read source = .ok segments := by decide +kernel
  obtain ⟨hclosed, harguments, hnames⟩ := functions_closed source "m" segments hread
  refine ⟨hread, hclosed .rustModule, hnames.trans (by decide +kernel), (hclosed _).2, ?_⟩
  exact (harguments .pragma "M_HPP").trans (by decide +kernel)

end Phrasebook
