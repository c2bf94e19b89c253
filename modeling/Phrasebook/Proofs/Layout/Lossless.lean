import Mathlib.Algebra.BigOperators.Group.List.Basic
import Phrasebook.Layout.Basic
import Phrasebook.Proofs.Template.Normal

/-!
# Layouts lose nothing

The text of a function determines the message, given its name, as long as no literal has a double
quote. The texts of literals are put into the function as they are, so a literal may look like a
piece of the function around it; but a reader who goes from left to right is never misled. A literal
ends at the next double quote. The number of an argument ends where its digits end. The declarations
of the arguments end at a bracket that does not occur in them.

Each of these is an instance of one fact: where two texts are equal, and each is cut where a certain
kind of characters ends, the parts are equal (`append_cancel_of_boundary`).

Both layouts spell the parts of a body one after the other, with other words around them. What is
around a part is kept in a `PartSyntax`, and the parts are recovered from any such spelling
(`PartSyntax.flatMap_spell_cancel`).

## Main results

* `PartSyntax.flatMap_spell_cancel`: the parts of a body are recovered from their spelling.
* `Header.function_cancel`, `Module.function_cancel`: a message is recovered from its function.
* `layouts_lossless`: no layout loses anything, and so the layouts agree on which templates differ.
-/

namespace Phrasebook

open Template (isDigit)

/-! ### Cutting after digits -/

/-- No digit stands at the beginning of the text. -/
def PlainStart (cs : List Char) : Prop :=
  cs.head?.any isDigit = false

instance (cs : List Char) : Decidable (PlainStart cs) :=
  inferInstanceAs (Decidable (_ = false))

/-- If neither of two texts begins with a digit, the two in turn do not. -/
theorem PlainStart.append {xs ys : List Char} (hxs : PlainStart xs) (hys : PlainStart ys) :
    PlainStart (xs ++ ys) := by
  rcases xs with - | ⟨c, cs⟩
  · exact hys
  · exact hxs

/-- Two equal texts that are cut after the digits of a number have equal parts. -/
theorem toString_append_cancel {i j : Nat} {rest rest' : List Char} (hrest : PlainStart rest)
    (hrest' : PlainStart rest')
    (h : (toString i).toList ++ rest = (toString j).toList ++ rest') : i = j ∧ rest = rest' := by
  obtain ⟨hdigits, hrests⟩ := append_cancel_of_boundary isDigit
    (fun _ => Template.isDigit_of_mem_toString) (fun _ => Template.isDigit_of_mem_toString)
    hrest hrest' h
  have hnumbers := congrArg Template.decimal hdigits
  rw [Template.decimal_toString, Template.decimal_toString] at hnumbers
  exact ⟨hnumbers, hrests⟩

/-! ### Parts -/

/-- A part is not a literal with a double quote. -/
def Part.Unquoted : Part → Prop
  | .literal text => '"' ∉ text.toList
  | .argument _ => True

/-- No literal of the message has a double quote. -/
def Message.Unquoted (m : Message) : Prop :=
  ∀ part ∈ m.body, part.Unquoted

instance : DecidablePred Part.Unquoted
  | .literal text => inferInstanceAs (Decidable ('"' ∉ text.toList))
  | .argument _ => .isTrue trivial

instance (m : Message) : Decidable m.Unquoted :=
  inferInstanceAs (Decidable (∀ part ∈ m.body, part.Unquoted))

/-- How parts are spelled one after the other: what stands before a part, before the number of an
argument, and after the part. An argument is told from a literal by its first character, and no part
begins with a digit. -/
structure PartSyntax where
  lead : List Char
  mark : Char
  label : List Char
  afterLiteral : List Char
  afterArgument : List Char
  lead_ne : lead ≠ []
  lead_plain : PlainStart lead
  mark_ne : mark ≠ '"'
  after_plain : PlainStart afterArgument

namespace PartSyntax

variable (x : PartSyntax)

/-- The spelling of a part. -/
def spell : Part → List Char
  | .literal text => x.lead ++ '"' :: (text.toList ++ '"' :: x.afterLiteral)
  | .argument index => x.lead ++ x.mark :: (x.label ++ ((toString index).toList ++ x.afterArgument))

/-- Every part begins with the lead. -/
theorem lead_isPrefix (part : Part) (rest : List Char) : x.lead <+: x.spell part ++ rest := by
  cases part <;> simp [spell]

/-- No part begins with a digit. -/
theorem plainStart_spell (part : Part) (rest : List Char) : PlainStart (x.spell part ++ rest) := by
  obtain ⟨others, hothers⟩ := x.lead_isPrefix part rest
  have hlead := x.lead_plain
  obtain ⟨first, cs, hcons⟩ := List.exists_cons_of_ne_nil x.lead_ne
  rw [hcons] at hlead hothers
  rw [← hothers]
  exact hlead

/-- **A part is recovered from its spelling**, whatever follows, unless that begins with a digit. -/
theorem spell_append_cancel {p q : Part} {rest rest' : List Char} (hp : p.Unquoted)
    (hq : q.Unquoted) (hrest : PlainStart rest) (hrest' : PlainStart rest')
    (h : x.spell p ++ rest = x.spell q ++ rest') : p = q ∧ rest = rest' := by
  cases p with
  | literal text =>
      cases q with
      | literal text' =>
          simp only [spell, List.append_assoc, List.cons_append] at h
          have hbody := List.tail_eq_of_cons_eq (List.append_cancel_left h)
          obtain ⟨htext, hrests⟩ := append_cancel_of_not_mem hp hq hbody
          exact ⟨congrArg _ (String.toList_inj.mp htext), List.append_cancel_left hrests⟩
      | argument j =>
          simp only [spell, List.append_assoc, List.cons_append] at h
          exact absurd (List.head_eq_of_cons_eq (List.append_cancel_left h)).symm x.mark_ne
  | argument i =>
      cases q with
      | literal text' =>
          simp only [spell, List.append_assoc, List.cons_append] at h
          exact absurd (List.head_eq_of_cons_eq (List.append_cancel_left h)) x.mark_ne
      | argument j =>
          simp only [spell, List.append_assoc, List.cons_append] at h
          have hnumber := List.append_cancel_left
            (List.tail_eq_of_cons_eq (List.append_cancel_left h))
          obtain ⟨rfl, hrests⟩ := toString_append_cancel (x.after_plain.append hrest)
            (x.after_plain.append hrest') hnumber
          exact ⟨rfl, List.append_cancel_left hrests⟩

/-- **The parts of a body are recovered from their spelling**, up to an ending that is neither the
beginning of a part nor a digit. -/
theorem flatMap_spell_cancel {ps qs : List Part} {ending : List Char}
    (hstop : ¬ x.lead <+: ending) (hend : PlainStart ending)
    (hps : ∀ p ∈ ps, p.Unquoted) (hqs : ∀ q ∈ qs, q.Unquoted)
    (h : ps.flatMap x.spell ++ ending = qs.flatMap x.spell ++ ending) : ps = qs := by
  have hne (part : Part) (rest : List Char) : x.spell part ++ rest ≠ ending := by
    rintro rfl
    exact hstop (x.lead_isPrefix part rest)
  have hplain (parts : List Part) : PlainStart (parts.flatMap x.spell ++ ending) := by
    rcases parts with - | ⟨part, rest⟩
    · exact hend
    · rw [List.flatMap_cons, List.append_assoc]
      exact x.plainStart_spell part _
  induction ps generalizing qs with
  | nil =>
      cases qs with
      | nil => rfl
      | cons q qs =>
          rw [List.flatMap_cons, List.append_assoc] at h
          exact absurd h.symm (hne q _)
  | cons p ps ih =>
      cases qs with
      | nil =>
          rw [List.flatMap_cons, List.append_assoc] at h
          exact absurd h (hne p _)
      | cons q qs =>
          rw [List.flatMap_cons, List.flatMap_cons, List.append_assoc, List.append_assoc] at h
          obtain ⟨rfl, hrest⟩ := x.spell_append_cancel (hps p List.mem_cons_self)
            (hqs q List.mem_cons_self) (hplain ps) (hplain qs) h
          rw [ih (fun p' hp' => hps p' (List.mem_cons_of_mem p hp'))
            (fun q' hq' => hqs q' (List.mem_cons_of_mem p hq')) hrest]

/-- The parts are also recovered if a body without parts has a text of its own, as long as that does
not begin like the other bodies. -/
theorem body_cancel (text : List Part → List Char) (opening ending : List Char) {ps qs : List Part}
    (hbody : ∀ body, body ≠ [] → text body = opening ++ (body.flatMap x.spell ++ ending))
    (hempty : ¬ opening <+: text []) (hstop : ¬ x.lead <+: ending) (hend : PlainStart ending)
    (hps : ∀ p ∈ ps, p.Unquoted) (hqs : ∀ q ∈ qs, q.Unquoted) (h : text ps = text qs) :
    ps = qs := by
  have hopening {body : List Part} (hne : body ≠ []) : opening <+: text body :=
    ⟨_, (hbody body hne).symm⟩
  by_cases hp : ps = []
  · subst hp
    by_cases hq : qs = []
    · exact hq.symm
    · exact absurd (h ▸ hopening hq) hempty
  · by_cases hq : qs = []
    · subst hq
      exact absurd (h ▸ hopening hp) hempty
    · rw [hbody ps hp, hbody qs hq] at h
      exact x.flatMap_spell_cancel hstop hend hps hqs (List.append_cancel_left h)

end PartSyntax

/-! ### Declarations of arguments -/

section Rows

variable {ι : Type} {sep : List Char} {f : ι → List Char} {row row' : List ι}

/-- A character of a separated row stands in the separator or in an entry. -/
theorem not_mem_intercalate {c : Char} (hsep : c ∉ sep) (hf : ∀ i, c ∉ f i) :
    c ∉ sep.intercalate (row.map f) := by
  rcases row with - | ⟨i, rest⟩
  · simp
  · intro hc
    have hmem := List.mem_append_right sep hc
    rw [append_intercalate (List.cons_ne_nil i rest), List.mem_flatMap] at hmem
    obtain ⟨j, -, hj⟩ := hmem
    exact (List.mem_append.mp hj).elim hsep (hf j)

/-- A separated row has as many entries as another one with the same text, if the separator can be
told from the entries. -/
theorem length_eq_of_intercalate {c : Char} (hsep : sep.count c = 1) (hf : ∀ i, c ∉ f i)
    (hrow : row ≠ []) (hrow' : row' ≠ [])
    (h : sep.intercalate (row.map f) = sep.intercalate (row'.map f)) : row.length = row'.length := by
  have hcount {is : List ι} (his : is ≠ []) :
      (sep ++ sep.intercalate (is.map f)).count c = is.length := by
    rw [append_intercalate his, List.count_flatMap]
    have hone : (List.count c ∘ fun i => sep ++ f i) = fun _ => 1 := by
      funext i
      simp [List.count_eq_zero_of_not_mem (hf i), hsep]
    rw [hone, List.map_const', List.sum_replicate]
    simp
  rw [← hcount hrow, ← hcount hrow', h]

end Rows

/-- The spelling of a number has nothing but digits. -/
theorem not_mem_toString {c : Char} (h : isDigit c = false) (n : Nat) : c ∉ (toString n).toList :=
  fun hc => Template.ne_of_isDigit (Template.isDigit_of_mem_toString hc) h rfl

/-- The name of a type has its mark and digits, and no other character. -/
theorem not_mem_typeName {c : Char} (hmark : c ≠ 'T') (h : isDigit c = false) (n : Nat) :
    c ∉ (Message.typeName n).toList := by
  have hletter : "T".toList = ['T'] := rfl
  rw [Message.typeName, String.toList_append, hletter, List.singleton_append, List.mem_cons, not_or]
  exact ⟨hmark, not_mem_toString h n⟩

/-- The declaration of arguments in a row, or nothing if there are none. -/
def declaration (lead : List Char) (entry : Nat → List Char) (stop : Char) (after : List Char)
    (n : Nat) : List Char :=
  if n = 0 then []
  else lead ++ ([',', ' '].intercalate ((List.range n).map entry) ++ stop :: after)

/-- **The number of arguments is recovered from their declaration**, if what follows cannot be
mistaken for one. -/
theorem declaration_append_cancel {lead : List Char} {entry : Nat → List Char} {stop : Char}
    {after : List Char} {n n' : Nat} {rest rest' : List Char} (hsep : stop ∉ [',', ' '])
    (hentry : ∀ i, ',' ∉ entry i ∧ stop ∉ entry i) (hrest : ¬ lead <+: rest)
    (hrest' : ¬ lead <+: rest')
    (h : declaration lead entry stop after n ++ rest =
      declaration lead entry stop after n' ++ rest') : n = n' ∧ rest = rest' := by
  by_cases hn : n = 0
  · by_cases hn' : n' = 0
    · rw [declaration, declaration, if_pos hn, if_pos hn'] at h
      exact ⟨hn.trans hn'.symm, h⟩
    · rw [declaration, declaration, if_pos hn, if_neg hn', List.append_assoc] at h
      exact absurd ⟨_, h.symm⟩ hrest
  · by_cases hn' : n' = 0
    · rw [declaration, declaration, if_neg hn, if_pos hn', List.append_assoc] at h
      exact absurd ⟨_, h⟩ hrest'
    · rw [declaration, declaration, if_neg hn, if_neg hn'] at h
      simp only [List.append_assoc, List.cons_append] at h
      have hmem (k : Nat) : stop ∉ [',', ' '].intercalate ((List.range k).map entry) :=
        not_mem_intercalate hsep fun i => (hentry i).2
      obtain ⟨hrows, hrests⟩ :=
        append_cancel_of_not_mem (hmem n) (hmem n') (List.append_cancel_left h)
      have hlength := length_eq_of_intercalate (c := ',') (by decide) (fun i => (hentry i).1)
        (by simpa using hn) (by simpa using hn') hrows
      rw [List.length_range, List.length_range] at hlength
      exact ⟨hlength, List.append_cancel_left hrests⟩

/-- The arguments of a message are declared in a row. -/
theorem toList_declaration (m : Message) (lead : String) (entry : Nat → String) {stop : Char}
    {after : List Char} {closing : String} (h : closing.toList = stop :: after) :
    (if m.isGeneric then lead ++ ", ".intercalate (m.arguments.map entry) ++ closing
      else "").toList =
      declaration lead.toList (fun i => (entry i).toList) stop after m.arity := by
  rw [declaration, Message.isGeneric]
  by_cases harity : m.arity = 0
  · simp [harity]
  · rw [if_pos (by simpa using Nat.pos_of_ne_zero harity), if_neg harity, String.toList_append,
      String.toList_append, String.toList_intercalate, List.map_map, List.append_assoc, h]
    rfl

/-! ### Headers -/

namespace Header

/-- How the parts of a body stand in a header. -/
def partSyntax : PartSyntax where
  lead := " << ".toList
  mark := 'P'
  label := []
  afterLiteral := []
  afterArgument := []
  lead_ne := by simp
  lead_plain := by decide +kernel
  mark_ne := by decide
  after_plain := by decide +kernel

/-- An operand with its arrow in front is a part as headers spell it. -/
theorem toList_operand (part : Part) :
    " << ".toList ++ (operand part).toList = partSyntax.spell part := by
  cases part with
  | literal text => simp [operand, PartSyntax.spell, partSyntax]
  | argument index => simp [operand, PartSyntax.spell, partSyntax, Message.valueName]

/-- The line that fills the stream has the parts one after the other. -/
theorem toList_streamLine {body : List Part} (h : body ≠ []) :
    (streamLine body).toList = "    out".toList ++ (body.flatMap partSyntax.spell ++ ";\n".toList) := by
  have hlead : "    out << ".toList = "    out".toList ++ " << ".toList := rfl
  rw [streamLine, if_neg (by simpa using h), String.toList_append, String.toList_append, hlead,
    String.toList_intercalate, List.map_map, List.append_assoc, List.append_assoc,
    ← List.append_assoc " << ".toList, append_intercalate h]
  simp only [Function.comp_apply, toList_operand]

/-- The template line of a header declares the types of the arguments in a row. -/
theorem toList_templateLine (m : Message) :
    (templateLine m).toList = declaration "template <".toList
      (fun i => ("typename " ++ Message.typeName i).toList) '>' ['\n'] m.arity :=
  toList_declaration m "template <" _ rfl

/-- The signature of a function in a header, piece by piece. -/
theorem toList_signature (m : Message) :
    (signature m).toList = "inline std::string ".toList ++ (m.name.toList ++ ("(".toList ++
      ((", ".intercalate (m.arguments.map fun i =>
        Message.typeName i ++ " " ++ Message.valueName i)).toList ++ ")\n".toList))) := by
  simp only [← String.toList_append, ← String.append_assoc]
  rfl

/-- The function of a message in a header, piece by piece. -/
theorem toList_function (m : Message) :
    (function m).toList = "\n".toList ++ ((templateLine m).toList ++ ((signature m).toList ++
      ("\x7b\n    std::ostringstream out;\n".toList ++
        ((streamLine m.body).toList ++ "    return out.str();\n\x7d\n".toList)))) := by
  simp only [← String.toList_append, ← String.append_assoc]
  rfl

/-- The parts of a body are recovered from the end of its function. -/
theorem streamLine_cancel {ps qs : List Part} (hps : ∀ p ∈ ps, p.Unquoted)
    (hqs : ∀ q ∈ qs, q.Unquoted)
    (h : (streamLine ps).toList ++ "    return out.str();\n\x7d\n".toList =
      (streamLine qs).toList ++ "    return out.str();\n\x7d\n".toList) : ps = qs := by
  refine partSyntax.body_cancel
    (fun body => (streamLine body).toList ++ "    return out.str();\n\x7d\n".toList)
    "    out".toList (";\n".toList ++ "    return out.str();\n\x7d\n".toList)
    (fun body hbody => ?_) (by simp [streamLine]) (by decide) (by decide) hps hqs h
  rw [toList_streamLine hbody, List.append_assoc, List.append_assoc]

/-- **A message is recovered from its function in a header**, given its name. -/
theorem function_cancel {f g : Message} (hname : f.name = g.name) (hf : f.Unquoted)
    (hg : g.Unquoted) (h : function f = function g) : f.arity = g.arity ∧ f.body = g.body := by
  have hentry (i : Nat) : ',' ∉ ("typename " ++ Message.typeName i).toList ∧
      '>' ∉ ("typename " ++ Message.typeName i).toList := by
    rw [String.toList_append, List.mem_append, List.mem_append, not_or, not_or]
    exact ⟨⟨by decide, not_mem_typeName (by decide) (by decide) i⟩,
      by decide, not_mem_typeName (by decide) (by decide) i⟩
  have hsignature (m : Message) (rest : List Char) :
      ¬ "template <".toList <+: (signature m).toList ++ rest := by
    have htemplate : "template <".toList = 't' :: "emplate <".toList := by simp
    have hinline : "inline std::string ".toList = 'i' :: "nline std::string ".toList := by simp
    rw [toList_signature, htemplate, hinline, List.append_assoc, List.cons_append,
      List.cons_prefix_cons]
    exact fun heq => absurd heq.1 (by decide)
  have htext := congrArg String.toList h
  rw [toList_function, toList_function, toList_templateLine, toList_templateLine] at htext
  obtain ⟨harity, hrest⟩ := declaration_append_cancel (by decide) hentry (hsignature f _)
    (hsignature g _) (List.append_cancel_left htext)
  have hsame : (signature f).toList = (signature g).toList := by
    rw [toList_signature, toList_signature, hname, Message.arguments, Message.arguments, harity]
  rw [hsame] at hrest
  exact ⟨harity, streamLine_cancel hf hg
    (List.append_cancel_left (List.append_cancel_left hrest))⟩

end Header

/-! ### Modules -/

namespace Module

/-- How the parts of a body stand in a module. -/
def partSyntax : PartSyntax where
  lead := "    out.push_str(".toList
  mark := '&'
  label := ['p']
  afterLiteral := ");\n".toList
  afterArgument := ".to_string());\n".toList
  lead_ne := by simp
  lead_plain := by decide +kernel
  mark_ne := by decide
  after_plain := by decide +kernel

/-- A statement is a part as modules spell it. -/
theorem toList_statement (part : Part) : (statement part).toList = partSyntax.spell part := by
  unfold statement partSyntax
  cases part with
  | literal text => simp [PartSyntax.spell]
  | argument index => simp [PartSyntax.spell, argumentName]

/-- The statements of a function have the parts one after the other. -/
theorem toList_statements {body : List Part} (h : body ≠ []) :
    (statements body).toList = "    let mut out = String::new();\n".toList ++
      (body.flatMap partSyntax.spell ++ "    out\n".toList) := by
  rw [statements, if_neg (by simpa using h), String.toList_append, String.toList_append,
    String.toList_join, List.flatMap_map, List.append_assoc]
  simp only [toList_statement]

/-- The generics of a module declare the types of the arguments in a row. -/
theorem toList_generics (m : Message) :
    (generics m).toList = declaration "<".toList
      (fun i => (Message.typeName i ++ ": std::fmt::Display").toList) '>' [] m.arity :=
  toList_declaration m "<" _ rfl

/-- The signature of a function in a module, piece by piece. -/
theorem toList_signature (m : Message) :
    (signature m).toList = "pub fn ".toList ++ (m.name.toList ++ ((generics m).toList ++
      ("(".toList ++ ((", ".intercalate (m.arguments.map fun i =>
        declaredName m i ++ ": " ++ Message.typeName i)).toList ++
          ") -> String \x7b\n".toList)))) := by
  simp only [← String.toList_append, ← String.append_assoc]
  rfl

/-- The function of a message in a module, piece by piece. -/
theorem toList_function (m : Message) :
    (function m).toList = "\n".toList ++ ((signature m).toList ++
      ((statements m.body).toList ++ "\x7d\n".toList)) := by
  simp only [← String.toList_append, ← String.append_assoc]
  rfl

/-- The parts of a body are recovered from the end of its function. -/
theorem statements_cancel {ps qs : List Part} (hps : ∀ p ∈ ps, p.Unquoted)
    (hqs : ∀ q ∈ qs, q.Unquoted)
    (h : (statements ps).toList ++ "\x7d\n".toList = (statements qs).toList ++ "\x7d\n".toList) :
    ps = qs := by
  refine partSyntax.body_cancel (fun body => (statements body).toList ++ "\x7d\n".toList)
    "    let mut out = String::new();\n".toList ("    out\n".toList ++ "\x7d\n".toList)
    (fun body hbody => ?_) (by simp [statements]) (by decide) (by decide) hps hqs h
  rw [toList_statements hbody, List.append_assoc, List.append_assoc]

/-- The declaration of an argument has no bracket. -/
theorem not_mem_declared (m : Message) (i : Nat) :
    ')' ∉ (declaredName m i ++ ": " ++ Message.typeName i).toList := by
  have hmark : ')' ∉ (if m.uses i then "" else "_").toList := by
    split <;> decide
  have hname : ')' ∉ (argumentName i).toList := by
    rw [argumentName, String.toList_append, List.mem_append, not_or]
    exact ⟨by decide, not_mem_toString (by decide) i⟩
  simp only [declaredName, String.toList_append, List.mem_append, not_or]
  exact ⟨⟨⟨hmark, hname⟩, by decide⟩, not_mem_typeName (by decide) (by decide) i⟩

/-- **A message is recovered from its function in a module**, given its name. The declarations of the
arguments may differ by the marks of unused ones, so they are cut off before the bodies are
compared. -/
theorem function_cancel {f g : Message} (hname : f.name = g.name) (hf : f.Unquoted)
    (hg : g.Unquoted) (h : function f = function g) : f.arity = g.arity ∧ f.body = g.body := by
  have hentry (i : Nat) : ',' ∉ (Message.typeName i ++ ": std::fmt::Display").toList ∧
      '>' ∉ (Message.typeName i ++ ": std::fmt::Display").toList := by
    rw [String.toList_append, List.mem_append, List.mem_append, not_or, not_or]
    exact ⟨⟨not_mem_typeName (by decide) (by decide) i, by decide⟩,
      not_mem_typeName (by decide) (by decide) i, by decide⟩
  have hopening (rest : List Char) : ¬ "<".toList <+: "(".toList ++ rest := by
    have hangle : "<".toList = ['<'] := rfl
    have hround : "(".toList = ['('] := rfl
    rw [hangle, hround, List.singleton_append, List.cons_prefix_cons]
    exact fun heq => absurd heq.1 (by decide)
  have harguments (m : Message) : ')' ∉ (", ".intercalate (m.arguments.map fun i =>
      declaredName m i ++ ": " ++ Message.typeName i)).toList := by
    rw [String.toList_intercalate, List.map_map]
    exact not_mem_intercalate (by decide) fun i => not_mem_declared m i
  have hclosing : ") -> String \x7b\n".toList = ')' :: " -> String \x7b\n".toList := by simp
  have htext := congrArg String.toList h
  rw [toList_function, toList_function, toList_signature, toList_signature, hname] at htext
  simp only [List.append_assoc, toList_generics] at htext
  obtain ⟨harity, hrest⟩ := declaration_append_cancel (by decide) hentry (hopening _) (hopening _)
    (List.append_cancel_left (List.append_cancel_left (List.append_cancel_left htext)))
  have hdeclared := List.append_cancel_left hrest
  rw [hclosing, List.cons_append] at hdeclared
  obtain ⟨-, hbody⟩ := append_cancel_of_not_mem (harguments f) (harguments g) hdeclared
  exact ⟨harity, statements_cancel hf hg (List.append_cancel_left hbody)⟩

end Module

/-! ### The main result -/

/-- A message is recovered from its function in whatever layout, given its name. -/
theorem Layout.text_function_cancel (layout : Layout) {f g : Message} (hname : f.name = g.name)
    (hf : f.Unquoted) (hg : g.Unquoted)
    (h : layout.text (.function f) = layout.text (.function g)) :
    f.arity = g.arity ∧ f.body = g.body := by
  cases layout with
  | header style guard => exact Header.function_cancel hname hf hg h
  | rustModule => exact Module.function_cancel hname hf hg h

/-- The message of a template has no double quote. -/
theorem Template.Normal.unquoted_ofSegments {segments : List Segment} (h : Normal segments)
    (name : String) : (Message.ofSegments name segments).Unquoted := by
  intro part hpart
  obtain ⟨s, hs, hmem⟩ := List.mem_flatMap.mp hpart
  cases part with
  | argument index => trivial
  | literal text =>
      obtain rfl : text = s.literal := by
        simp only [Segment.parts, List.mem_append, List.mem_map, reduceCtorEq, and_false,
          exists_false, or_false] at hmem
        split at hmem
        · exact absurd hmem List.not_mem_nil
        · exact Part.literal.inj (List.mem_singleton.mp hmem)
      exact h.unquoted s hs

/-- In whatever layout, two templates have the same function exactly if they have the same
segments. -/
theorem Layout.text_ofSegments_eq_iff (layout : Layout) (name : String) {a b : List Segment}
    (ha : Template.Normal a) (hb : Template.Normal b) :
    layout.text (.function (.ofSegments name a)) = layout.text (.function (.ofSegments name b)) ↔
      a = b := by
  constructor
  · intro h
    have hparts : a.flatMap Segment.parts = b.flatMap Segment.parts :=
      (layout.text_function_cancel (f := .ofSegments name a) (g := .ofSegments name b) rfl
        (ha.unquoted_ofSegments name) (hb.unquoted_ofSegments name) h).2
    rw [← Template.gather_parts ha, ← Template.gather_parts hb, hparts]
  · rintro rfl
    rfl

/-- **No layout loses anything, and therefore the layouts agree.** If two messages of the same name,
whose literals have no double quotes, have the same function in a layout, then they take as many
arguments and have the same body; their literals may be empty, may follow each other, and may look
like a piece of the function, and their arguments need not be among those that they take. Hence, of
two templates that are accepted, the functions in a header are the same exactly if those in a module
are, and exactly if the templates have the same segments. -/
theorem layouts_lossless :
    (∀ (layout : Layout) (f g : Message), f.name = g.name → f.Unquoted → g.Unquoted →
      layout.text (.function f) = layout.text (.function g) →
        f.arity = g.arity ∧ f.body = g.body) ∧
    ∀ (s t name guard : String) (style : GuardStyle) (a b : List Segment),
      Template.read s = .ok a → Template.read t = .ok b →
        let inHeader := fun segments =>
          (Layout.header style guard).text (.function (.ofSegments name segments))
        let inModule := fun segments =>
          Layout.rustModule.text (.function (.ofSegments name segments))
        (inHeader a = inHeader b ↔ inModule a = inModule b) ∧ (inModule a = inModule b ↔ a = b) := by
  refine ⟨fun layout f g => layout.text_function_cancel, ?_⟩
  intro s t name guard style a b hs ht inHeader inModule
  have ha := Template.normal_of_read hs
  have hb := Template.normal_of_read ht
  have hheader : inHeader a = inHeader b ↔ a = b := Layout.text_ofSegments_eq_iff _ name ha hb
  have hmodule : inModule a = inModule b ↔ a = b := Layout.text_ofSegments_eq_iff _ name ha hb
  exact ⟨hheader.trans hmodule.symm, hmodule⟩

/-- Literals that look like what stands between parts, arguments whose numbers begin alike, and two
spellings of one template. -/
theorem layouts_lossless_lookalikes :
    let f : Message := ⟨"m", 2, [.literal " << P1", .literal "", .argument 1, .literal "1"]⟩
    let g : Message := ⟨"m", 2, [.literal "", .literal " << P1", .argument 11, .literal ""]⟩
    (f.name = g.name ∧ f.Unquoted ∧ g.Unquoted ∧
      ∀ layout : Layout, layout.text (.function f) ≠ layout.text (.function g)) ∧
    Template.read "\"\x7b 0 :x\x7d" = .ok [⟨"", some 0⟩] ∧
      Template.read "\x7b00\x7d" = .ok [⟨"", some 0⟩] ∧
      Template.read "\x7b\x7b0\x7d\x7d" = .ok [⟨"\x7b0\x7d", none⟩] ∧
      Layout.rustModule.text (.function (.ofSegments "m" [⟨"", some 0⟩])) ≠
        Layout.rustModule.text (.function (.ofSegments "m" [⟨"\x7b0\x7d", none⟩])) := by
  intro f g
  have hf : f.Unquoted := by decide +kernel
  have hg : g.Unquoted := by decide +kernel
  have hpadded : Template.read "\"\x7b 0 :x\x7d" = .ok [⟨"", some 0⟩] := by decide +kernel
  have hbraces : Template.read "\x7b\x7b0\x7d\x7d" = .ok [⟨"\x7b0\x7d", none⟩] := by
    decide +kernel
  obtain ⟨hcancel, htemplates⟩ := layouts_lossless
  refine ⟨⟨rfl, hf, hg, ?_⟩, hpadded, by decide +kernel, hbraces, ?_⟩
  · intro layout h
    exact absurd (hcancel layout f g rfl hf hg h).2 (by decide +kernel)
  · intro h
    exact absurd ((htemplates _ _ "m" "" .pragma _ _ hpadded hbraces).2.mp h) (by decide +kernel)

end Phrasebook
