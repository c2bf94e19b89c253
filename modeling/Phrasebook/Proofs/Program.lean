import Phrasebook.Proofs.Reference
import Phrasebook.Proofs.Session.LineCounts
import Phrasebook.Proofs.Template.Print
import Phrasebook.Proofs.Tokens

/-!
# Programs as definition files

A *program* is a list of declarations: open a package, or define a message of some name and
segments. It can be carried out by a session directly (`Session.drive`), and it can be written
down as a definition file (`Declaration.spell`). Every program whose names and literals fit
on a line, and whose segments are such as reading can give, is expressed by its definition
file: compiling the file writes what carrying out the program writes, and no line of it is
skipped.

The quoting makes this work. A name between double quotes may be empty, hold blanks or begin
with `#`; the line begins with the quote or with the word `package`, and ends with a quote, so
it is never blank, a comment, or a line whose carriage return could get lost.

## Main results

* `Declaration.effective?_line`: the line of a declaration contributes the declaration.
* `Declaration.ofText_spell`: the lines of a spelled program are the lines of its declarations.
* `Session.drive_yields`: what carrying out a program writes.
* `compile_spell`: compiling a spelled program carries it out.
-/

namespace Phrasebook

open Reference

/-! ### Programs and their spelling -/

/-- A declaration of a program. -/
inductive Declaration where
  /-- Open a package. -/
  | package (name : String)
  /-- Define a message. -/
  | message (name : String) (segments : List Segment)
  deriving DecidableEq, Repr

/-- Whether a text can stand between double quotes on a line. -/
def IsQuotable (s : String) : Prop :=
  '"' ∉ s.toList ∧ '\n' ∉ s.toList

instance (s : String) : Decidable (IsQuotable s) :=
  inferInstanceAs (Decidable (_ ∧ _))

namespace Declaration

/-- The line of a declaration. -/
def line : Declaration → String
  | package name => "package \"" ++ name ++ "\""
  | message name segments => "\"" ++ name ++ "\" \"" ++ Template.print segments ++ "\""

/-- The definition file of a program. -/
def spell (program : List Declaration) : String :=
  String.join (program.map fun d => d.line ++ "\n")

/-- Whether a declaration can be written as a line. -/
def Expressible : Declaration → Prop
  | package name => IsQuotable name
  | message name segments =>
    IsQuotable name ∧ name ≠ "package" ∧ Template.Normal segments ∧
      ∀ s ∈ segments, '\n' ∉ s.literal.toList

instance : (d : Declaration) → Decidable d.Expressible
  | package name => inferInstanceAs (Decidable (IsQuotable name))
  | message _ _ => inferInstanceAs (Decidable (_ ∧ _))

/-- What a declaration contributes to the generated file. -/
def effective : Declaration → Effective
  | package name => .package name
  | message name segments => .message (Message.ofSegments name segments)

end Declaration

namespace Session

/-- Carries out a declaration. -/
def declare (s : Session) : Declaration → Outcome
  | .package name => s.openPackage name
  | .message name segments => s.emit (Message.ofSegments name segments)

/-- Carries out a program and finishes the generated file. -/
def drive (s : Session) : List Declaration → Outcome
  | [] => s.finish
  | d :: rest => (s.declare d).andThen fun s => s.drive rest

end Session

/-! ### Lines -/

namespace Declaration

/-- The characters of a line that opens a package. -/
theorem toList_package_line (name : String) :
    (package name).line.toList =
      'p' :: (['a', 'c', 'k', 'a', 'g', 'e'] ++ ' ' :: '"' :: (name.toList ++ ['"'])) := by
  simp [line]

/-- The characters of a line that defines a message. -/
theorem toList_message_line (name : String) (segments : List Segment) :
    (message name segments).line.toList =
      '"' :: (name.toList ++ '"' :: ' ' :: '"' ::
        ((Template.print segments).toList ++ ['"'])) := by
  simp [line]

/-- The tokens of a line that opens a package. -/
theorem tokens_package {name : String} (h : IsQuotable name) :
    Line.tokens (package name).line = .ok ["package", name] := by
  rw [Line.tokens_of_toList (toList_package_line name) (by decide) (by decide),
    Line.tokensFrom_word (by decide) (by simp [Text.isBlank]) (by decide),
    Line.tokensFrom_quoted h.1]
  simp [Line.tokensFrom, Except.map]

/-- The tokens of a line that defines a message. The blank between the quoted runs ends
nothing. -/
theorem tokens_message {name : String} {segments : List Segment} (h : IsQuotable name)
    (hprint : '"' ∉ (Template.print segments).toList) :
    Line.tokens (message name segments).line = .ok [name, Template.print segments] := by
  rw [Line.tokens_of_toList (toList_message_line name segments) (by decide) (by decide),
    Line.tokensFrom_quoted h.1, Line.tokensFrom, if_pos (by decide),
    Line.tokensFrom_quoted hprint]
  simp [Line.tokensFrom, Except.map]

/-- A template in normal form has no double quote and can be quoted. -/
theorem quote_not_mem_print {segments : List Segment} (h : Template.Normal segments) :
    '"' ∉ (Template.print segments).toList :=
  Template.not_mem_print (by decide) (by decide) (by decide) h.unquoted

/-- **The line of a declaration contributes the declaration.** -/
theorem effective?_line {d : Declaration} (h : d.Expressible) :
    effective? d.line = some d.effective := by
  cases d with
  | package name =>
      rw [effective?, tokens_package h]
      rfl
  | message name segments =>
      obtain ⟨hname, hpackage, hnormal, -⟩ := h
      rw [effective?, tokens_message hname (quote_not_mem_print hnormal)]
      simp [hpackage, Template.read_print hnormal, effective]

/-- The line of a declaration is one line. -/
theorem lineFeed_not_mem_line {d : Declaration} (h : d.Expressible) : '\n' ∉ d.line.toList := by
  cases d with
  | package name => simp [toList_package_line, h.2]
  | message name segments =>
      obtain ⟨hname, -, -, hsegments⟩ := h
      have hprint : '\n' ∉ (Template.print segments).toList :=
        Template.not_mem_print (by decide) (by decide) (by decide) hsegments
      simp [toList_message_line, hname.2, hprint]

/-- The line of a declaration ends with a quote, so no carriage return is taken off it. -/
theorem withoutReturn_line (d : Declaration) :
    Line.withoutReturn d.line.toList = d.line.toList := by
  have hlast : d.line.toList.getLast? = some '"' := by
    cases d <;> rw [line, String.toList_append] <;> exact List.getLast?_concat
  rw [Line.withoutReturn, hlast, if_neg (by decide)]

/-- **The lines of a spelled program are the lines of its declarations.** -/
theorem ofText_spell {program : List Declaration} (h : ∀ d ∈ program, d.Expressible) :
    Line.ofText (spell program) = program.map line := by
  induction program with
  | nil => rfl
  | cons d rest ih =>
      have hspell : spell (d :: rest) = d.line ++ "\n" ++ spell rest := by
        rw [spell, List.map_cons, String.join_cons]
        rfl
      rw [hspell, Line.ofText_append_lineFeed (lineFeed_not_mem_line (h d List.mem_cons_self)),
        withoutReturn_line, String.ofList_toList, ih fun e he => h e (List.mem_cons_of_mem d he)]
      rfl

/-- What the lines of a spelled program contribute are its declarations. -/
theorem filterMap_effective?_spell {program : List Declaration}
    (h : ∀ d ∈ program, d.Expressible) :
    (Line.ofText (spell program)).filterMap effective? = program.map effective := by
  rw [ofText_spell h, List.filterMap_map, ← List.filterMap_eq_map]
  exact List.filterMap_congr fun d hd => effective?_line (h d hd)

end Declaration

/-! ### Carrying out a program -/

namespace Session

/-- Beginning the file twice is beginning it once. -/
theorem begin_begin (s : Session) (next : Session → Outcome) :
    (s.begin.andThen fun s => s.begin.andThen next) = s.begin.andThen next := by
  refine Outcome.andThen_congr ?_
  rw [begin_of_started (begin_started s), Outcome.andThen_done]

/-- A declaration can be carried out after the beginning of the file. -/
theorem declare_begin (s : Session) (d : Declaration) :
    s.declare d = s.begin.andThen fun s => s.declare d := by
  cases d with
  | package name => simp only [declare, openPackage, begin_begin]
  | message name segments => simp only [declare, emit, begin_begin]

/-- A program can be carried out after the beginning of the file. -/
theorem drive_begin (s : Session) (program : List Declaration) :
    s.drive program = s.begin.andThen fun s => s.drive program := by
  cases program with
  | nil => simp only [drive, finish, begin_begin]
  | cons d rest =>
      rw [drive, declare_begin, Outcome.andThen_assoc]
      rfl

/-- A declaration writes what it contributes. -/
theorem declare_yields {s : Session} (d : Declaration) (h : s.Unhindered) :
    (s.declare d).Yields (reading s.scope [d.effective]) (scopeAfter s.scope [d.effective]) := by
  cases d with
  | package name => exact openPackage_yields name h
  | message name segments => exact emit_yields _ h

/-- A declaration leaves a lawful trace. -/
theorem declare_lawful (s : Session) (d : Declaration) : (s.declare d).LawfulFrom s := by
  cases d with
  | package name => exact openPackage_lawful s name
  | message name segments => exact emit_lawful s _

/-- **What carrying out a program writes**, from a session that has begun its file. -/
theorem drive_yields {s : Session} (program : List Declaration) (h : s.Unhindered) :
    (s.drive program).Yields
      (reading s.scope (program.map Declaration.effective) ++
        (closings (scopeAfter s.scope (program.map Declaration.effective)) ++ [.postamble]))
      none := by
  induction program generalizing s with
  | nil => exact finish_yields h
  | cons d rest ih =>
      have hdeclare := declare_yields d h
      have hrest := ih (h.of_lawful (declare_lawful s d))
      rw [hdeclare.scope] at hrest
      have hmap : (d :: rest).map Declaration.effective =
          [d.effective] ++ rest.map Declaration.effective := rfl
      rw [hmap, reading_append, scopeAfter_append, List.append_assoc]
      exact hdeclare.andThen hrest

/-- What carrying out a program writes, from the start. -/
theorem drive_start_yields (layout : Layout) (options : Options) (program : List Declaration) :
    ((start layout options .unlimited).drive program).Yields
      (fileChunks (items (program.map Declaration.effective))) none := by
  have hbegin := begin_yields_preamble (s := start layout options .unlimited) rfl rfl
  have hdrive := drive_yields program
    (begin_unhindered (s := start layout options .unlimited) rfl)
  rw [hbegin.scope] at hdrive
  rw [drive_begin, fileChunks, flatMap_items, List.append_assoc]
  exact hbegin.andThen hdrive

/-- Carrying out a program does not change how chunks are spelled. -/
theorem drive_layout (s : Session) (program : List Declaration) :
    (s.drive program).session.layout = s.layout := by
  induction program generalizing s with
  | nil => exact finish_layout s
  | cons d rest ih =>
      have hdeclare : (s.declare d).session.layout = s.layout := (declare_lawful s d).setting.1
      exact Outcome.andThen_keeps (P := fun t => t.layout = s.layout) hdeclare
        ((ih _).trans hdeclare)

end Session

/-! ### Skipped lines -/

/-- A line that contributes something is not malformed. -/
theorem malformed?_of_effective? {line : String} {e : Effective} (h : effective? line = some e) :
    malformed? line = none := by
  obtain ⟨error, -, hnone, -⟩ | ⟨hwell, -⟩ := ofLine_cases line
  · exact absurd (hnone.symm.trans h) (by simp)
  · exact hwell

/-- A line that contributes something is not skipped. -/
theorem readLine_skipped {line : String} {e : Effective} (s : Session) (number : Nat)
    (h : effective? line = some e) :
    (s.readLine number line).session.summary.skipped = s.summary.skipped := by
  obtain ⟨error, -, hnone, -⟩ | ⟨-, entry, hentry, heffective⟩ := ofLine_cases line
  · exact absurd (hnone.symm.trans h) (by simp)
  · rw [Session.readLine, hentry]
    cases entry with
    | nothing => exact rfl
    | package name => exact (Session.openPackage_keepsLineCounts s.countLine name).skipped
    | message m => exact (Session.emit_keepsLineCounts s.countLine m).skipped
    | ignored tokens => exact absurd (heffective.trans h) (by simp [ofEntry])

/-- Lines that contribute something are not skipped. -/
theorem readLines_skipped {lines : List String} (s : Session) (number : Nat)
    (h : ∀ line ∈ lines, ∃ e, effective? line = some e) :
    (s.readLines number (lines.map Utf8.encode)).session.summary.skipped = s.summary.skipped := by
  induction lines generalizing s number with
  | nil => rfl
  | cons line rest ih =>
      obtain ⟨e, he⟩ := h line List.mem_cons_self
      have hfirst := readLine_skipped s number he
      have hrest := ih (s.readLine number line).session (number + 1)
        fun l hl => h l (List.mem_cons_of_mem line hl)
      rw [List.map_cons, Session.readLines, Utf8.decode_encode]
      exact Outcome.andThen_keeps (P := fun t => t.summary.skipped = s.summary.skipped) hfirst
        (hrest.trans hfirst)

/-- A compilation skips nothing if every line contributes something. -/
theorem compile_skipped {input : String} (options : Options) (output : Option Path)
    (h : ∀ line ∈ Line.ofText input, ∃ e, effective? line = some e) :
    (compile .unlimited options output (.ok (Utf8.encode input))).session.summary.skipped = 0 := by
  have hopening : (opening (Layout.select options output) options).session.summary.skipped = 0 :=
    (Session.begin_keepsLineCounts _).skipped
  rw [compile_lines, Line.split_encode]
  generalize opening (Layout.select options output) options = o at hopening ⊢
  have hread := (readLines_skipped o.session 1 h).trans hopening
  have hclose := (Session.closePackage_keepsLineCounts
    (o.session.readLines 1 ((Line.ofText input).map Utf8.encode)).session).skipped.trans hread
  have hfinish := (Session.finish_keepsLineCounts _).skipped.trans hclose
  refine Outcome.andThen_keeps (P := fun t => t.summary.skipped = 0) hopening ?_
  refine Outcome.andThen_keeps (P := fun t => t.summary.skipped = 0) hread ?_
  exact Outcome.andThen_keeps (P := fun t => t.summary.skipped = 0) hclose hfinish

/-! ### The main result -/

/-- **Compiling a spelled program carries it out.** Whatever the options, the definition file of
a program whose declarations can be written as lines compiles without a failure and without a
skipped line, and what is written is what carrying out the program from the start writes. -/
theorem compile_spell (program : List Declaration) (h : ∀ d ∈ program, d.Expressible)
    (options : Options) (output : Option Path) :
    let outcome := compile .unlimited options output (.ok (Utf8.encode (Declaration.spell program)))
    let driven := (Session.start (Layout.select options output) options .unlimited).drive program
    outcome.failure = none ∧ outcome.session.summary.skipped = 0 ∧
      driven.failure = none ∧ outcome.chunks = driven.chunks ∧
      outcome.written = driven.written := by
  intro outcome driven
  have hlines : ∀ line ∈ Line.ofText (Declaration.spell program),
      ∃ e, effective? line = some e := by
    rw [Declaration.ofText_spell h]
    intro line hline
    obtain ⟨d, hd, rfl⟩ := List.mem_map.mp hline
    exact ⟨d.effective, Declaration.effective?_line (h d hd)⟩
  have hcompile := compile_yields options output <| .inr fun line hline =>
    (hlines line hline).elim fun _ => malformed?_of_effective?
  rw [Declaration.filterMap_effective?_spell h] at hcompile
  have hdrive := Session.drive_start_yields (Layout.select options output) options program
  have hchunks : outcome.chunks = driven.chunks := hcompile.stored.trans hdrive.stored.symm
  refine ⟨hcompile.failure, compile_skipped options output hlines, hdrive.failure, hchunks, ?_⟩
  rw [Outcome.written, Outcome.written, hchunks, compile_layout, Session.drive_layout]
  rfl

/-- A program with an empty name, a name that looks like a comment, braces next to placeholders
and the greatest index, compiled with strict options. -/
theorem compile_spell_braces :
    let program : List Declaration :=
      [.message "# a\r" [⟨"\x7bx\x7d", some 1023⟩, ⟨"", some 0⟩, ⟨"\x7d b", none⟩],
        .package "", .message "" [], .package "package"]
    let outcome := compile .unlimited { strict := true, target := .rust } none
      (.ok (Utf8.encode (Declaration.spell program)))
    (∀ d ∈ program, d.Expressible) ∧ outcome.failure = none ∧
      outcome.session.summary.skipped = 0 := by
  intro program outcome
  have h : ∀ d ∈ program, d.Expressible := by decide
  obtain ⟨hfailure, hskipped, -⟩ := compile_spell program h { strict := true, target := .rust } none
  exact ⟨h, hfailure, hskipped⟩

end Phrasebook
