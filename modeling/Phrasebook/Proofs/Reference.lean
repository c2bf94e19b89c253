import Phrasebook.Compile
import Phrasebook.Proofs.Lines
import Phrasebook.Proofs.Session.Brackets
import Phrasebook.Proofs.Session.Unhindered

/-!
# The batch reference

A compilation streams: it reads a line, writes what the line asks for, and goes on. This
module says what comes out of it without any state. Cut the text into lines, keep the
*effective* ones, which open a package or define a message, and group them: the messages
before the first package line stand by themselves, and every package line has the messages
up to the next one. The generated file is the beginning, these functions, these packages,
and the end.

On a sink that takes everything a compilation writes exactly this file, unless the options
are strict and a line is malformed. Then it fails with what is wrong with the first
malformed line, and what it has written is the file of the lines before, short of the
closing of the last package and of the end.

## Main results

* `readLines_yields`: what reading lines writes, in terms of the effective lines.
* `compile_eq_reference`: compilation equals the batch reference.
-/

namespace Phrasebook.Reference

/-! ### The reference -/

/-- A line that contributes to the generated file. -/
inductive Effective where
  | package (name : String)
  | message (m : Message)
  deriving DecidableEq, Repr

/-- What a line contributes: a line that begins with `package` and has a name opens a package,
and any other line of two tokens defines a message if its template is accepted. -/
def effective? (line : String) : Option Effective :=
  match Line.tokens line with
  | .ok (first :: second :: rest) =>
    if first = "package" then some (.package second)
    else if rest = [] then
      match Template.read second with
      | .ok segments => some (.message (Message.ofSegments first segments))
      | .error _ => none
    else none
  | _ => none

/-- What is wrong with a line: a quoted run in it never ends, or it defines a message whose
template is refused. -/
def malformed? (line : String) : Option Malformed :=
  match Line.tokens line with
  | .error error => some error
  | .ok [first, second] =>
    if first = "package" then none
    else
      match Template.read second with
      | .ok _ => none
      | .error refusal => some (.invalidTemplate refusal)
  | .ok _ => none

/-- The messages before the first package line, and the name of every package line with the
messages up to the next one. -/
def group : List Effective → List Message × List (String × List Message)
  | [] => ([], [])
  | .message m :: rest => (m :: (group rest).1, (group rest).2)
  | .package name :: rest => ([], (name, (group rest).1) :: (group rest).2)

/-- The items of the file that effective lines give. -/
def items (lines : List Effective) : List Item :=
  (group lines).1.map .function ++ (group lines).2.map fun package => .package package.1 package.2

/-- The text of the file that lines give. -/
def text (layout : Layout) (lines : List String) : String :=
  String.join ((fileChunks (items (lines.filterMap effective?))).map layout.text)

/-- The last package that lines open. -/
def lastPackage? (lines : List Effective) : Option String :=
  (group lines).2.getLast?.map Prod.fst

/-! ### Entries -/

/-- What an entry contributes. -/
def ofEntry : Entry → Option Effective
  | .package name => some (.package name)
  | .message m => some (.message m)
  | _ => none

/-- The entry of a line says what is wrong with the line, or what it contributes. -/
theorem ofLine_cases (line : String) :
    (∃ error, malformed? line = some error ∧ effective? line = none ∧
        Entry.ofLine line = .error error) ∨
      malformed? line = none ∧
        ∃ entry, Entry.ofLine line = .ok entry ∧ ofEntry entry = effective? line := by
  rw [malformed?, effective?, Entry.ofLine]
  cases Line.tokens line with
  | error error => exact .inl ⟨error, rfl, rfl, rfl⟩
  | ok tokens =>
      rcases tokens with - | ⟨first, rest⟩
      · exact .inr ⟨rfl, .nothing, rfl, rfl⟩
      by_cases hfirst : first = "package"
      · subst hfirst
        rcases rest with - | ⟨name, - | ⟨third, rest⟩⟩
        · exact .inr ⟨rfl, .ignored 1, rfl, rfl⟩
        · exact .inr ⟨rfl, .package name, rfl, rfl⟩
        · exact .inr ⟨rfl, .package name, rfl, rfl⟩
      · have hword : first ≠ Directive.packageWord := hfirst
        rcases rest with - | ⟨template, - | ⟨third, rest⟩⟩
        · refine .inr ⟨rfl, .ignored 1, ?_, rfl⟩
          simp only [Directive.ofTokens, if_neg hword]
          rfl
        · simp only [Directive.ofTokens, if_neg hword, if_neg hfirst, Entry.ofDirective]
          cases Template.read template with
          | error refusal => exact .inl ⟨.invalidTemplate refusal, rfl, rfl, rfl⟩
          | ok segments => exact .inr ⟨rfl, .message (Message.ofSegments first segments), rfl, rfl⟩
        · refine .inr ⟨rfl, .ignored (rest.length + 3), ?_, by simp [hfirst, ofEntry]⟩
          simp only [Directive.ofTokens, if_neg hword]
          rfl

/-- A line contributes before the lines that follow it. -/
theorem filterMap_effective?_cons (line : String) (rest : List String) :
    (line :: rest).filterMap effective? =
      (effective? line).toList ++ rest.filterMap effective? := by
  cases hline : effective? line <;> simp [hline]

/-! ### Reading line by line -/

/-- The chunks that are written while effective lines are read, given the package that is open
before them. -/
def reading : Option String → List Effective → List Chunk
  | _, [] => []
  | scope, .message m :: rest => .function m :: reading scope rest
  | scope, .package name :: rest => closings scope ++ .opening name :: reading (some name) rest

/-- The package that is open after effective lines, given the one that is open before them. -/
def scopeAfter : Option String → List Effective → Option String
  | scope, [] => scope
  | scope, .message _ :: rest => scopeAfter scope rest
  | _, .package name :: rest => scopeAfter (some name) rest

/-- Lines are read one part after the other. -/
theorem reading_append (scope : Option String) (first others : List Effective) :
    reading scope (first ++ others) =
      reading scope first ++ reading (scopeAfter scope first) others := by
  induction first generalizing scope with
  | nil => rfl
  | cons line rest ih => cases line <;> simp [reading, scopeAfter, ih]

/-- The package that is open after lines, one part after the other. -/
theorem scopeAfter_append (scope : Option String) (first others : List Effective) :
    scopeAfter scope (first ++ others) = scopeAfter (scopeAfter scope first) others := by
  induction first generalizing scope with
  | nil => rfl
  | cons line rest ih => cases line <;> simp [scopeAfter, ih]

/-- **Streaming is grouping.** What is written line by line, with the closing of the package
that is open at the end, is what grouping gives; a package that was open before is closed at
the first package line. -/
theorem reading_append_closings (scope : Option String) (lines : List Effective) :
    reading scope lines ++ closings (scopeAfter scope lines) =
      (group lines).1.map .function ++ closings scope ++
        (group lines).2.flatMap fun package => (Item.package package.1 package.2).chunks := by
  induction lines generalizing scope with
  | nil => simp [reading, scopeAfter, group]
  | cons line rest ih =>
      cases line with
      | message m => simpa [reading, scopeAfter, group] using ih scope
      | package name =>
          have hrest := ih (some name)
          rw [reading, scopeAfter, List.append_assoc, List.cons_append, hrest, group]
          simp [Item.chunks, closings]

/-- The package that is open after lines is the last one that they open. -/
theorem scopeAfter_eq (scope : Option String) (lines : List Effective) :
    scopeAfter scope lines = (lastPackage? lines).or scope := by
  induction lines generalizing scope with
  | nil => rfl
  | cons line rest ih =>
      cases line with
      | message m => exact ih scope
      | package name =>
          rw [scopeAfter, ih, lastPackage?, lastPackage?, group]
          cases hlast : (group rest).2.getLast? <;> simp [hlast, List.getLast?_cons]

/-- The chunks of the items that effective lines give. -/
theorem flatMap_items (lines : List Effective) :
    (items lines).flatMap Item.chunks =
      reading none lines ++ closings (scopeAfter none lines) := by
  rw [reading_append_closings, items, List.flatMap_append, List.flatMap_map, List.flatMap_map,
    List.map_eq_flatMap]
  simp [Item.chunks, closings]

/-- What reading a line writes, unless the line is malformed and the options are strict. -/
theorem readLine_yields {s : Session} {line : String} (number : Nat) (h : s.Unhindered)
    (hline : s.options.strict = false ∨ malformed? line = none) :
    (s.readLine number line).Yields (reading s.scope (effective? line).toList)
      (scopeAfter s.scope (effective? line).toList) := by
  have hcount : s.countLine.Unhindered := ⟨h.started, h.admission⟩
  rw [Session.readLine]
  obtain ⟨error, hmalformed, hnone, hentry⟩ | ⟨-, entry, hentry, heffective⟩ := ofLine_cases line
  · have hlenient : s.countLine.options.strict = false := by
      rcases hline with hlenient | hwell
      · exact hlenient
      · exact absurd (hwell.symm.trans hmalformed) (by simp)
    rw [hentry, hnone]
    dsimp only
    rw [Session.reject, if_neg (by simp [hlenient])]
    exact Session.skip_yields s.countLine _
  · rw [hentry, ← heffective]
    cases entry with
    | nothing => exact Outcome.yields_done s.countLine
    | package name => exact Session.openPackage_yields name hcount
    | message m => exact Session.emit_yields m hcount
    | ignored tokens => exact Session.skip_yields s.countLine _

/-- What reading lines writes, unless one of them is malformed and the options are strict. -/
theorem readLines_yields {s : Session} (number : Nat) (lines : List String) (h : s.Unhindered)
    (hlines : s.options.strict = false ∨ ∀ line ∈ lines, malformed? line = none) :
    (s.readLines number (lines.map Utf8.encode)).Yields
      (reading s.scope (lines.filterMap effective?))
      (scopeAfter s.scope (lines.filterMap effective?)) := by
  induction lines generalizing s number with
  | nil => exact Outcome.yields_done s
  | cons line rest ih =>
      have hfirst := readLine_yields number h
        (hlines.imp id fun hall => hall line List.mem_cons_self)
      have hlawful := Session.readLine_lawful s number line
      have hoptions : (s.readLine number line).session.options = s.options := hlawful.setting.2.1
      have hrest := ih (number + 1) (h.of_lawful hlawful)
        (hlines.imp (hoptions ▸ ·) fun hall l hl => hall l (List.mem_cons_of_mem _ hl))
      rw [hfirst.scope] at hrest
      rw [List.map_cons, Session.readLines, Utf8.decode_encode, filterMap_effective?_cons,
        reading_append, scopeAfter_append]
      exact hfirst.andThen hrest

/-- A malformed line ends the reading if the options are strict. -/
theorem readLine_malformed {s : Session} {line : String} {error : Malformed} (number : Nat)
    (hstrict : s.options.strict = true) (hline : malformed? line = some error) :
    s.readLine number line = .fail s.countLine (.malformed number error) := by
  obtain ⟨error', hmalformed, -, hentry⟩ | ⟨hwell, -⟩ := ofLine_cases line
  · obtain rfl : error' = error := Option.some.inj (hmalformed.symm.trans hline)
    rw [Session.readLine, hentry]
    exact if_pos hstrict
  · exact absurd (hwell.symm.trans hline) (by simp)

/-- If the options are strict, reading fails at the first malformed line, and what it has
written is what the lines before give. -/
theorem readLines_malformed {s : Session} {before : List String} {line : String}
    {error : Malformed} (number : Nat) (after : List String) (h : s.Unhindered)
    (hstrict : s.options.strict = true)
    (hbefore : ∀ l ∈ before, malformed? l = none) (hline : malformed? line = some error) :
    (s.readLines number ((before ++ line :: after).map Utf8.encode)).failure =
        some (.malformed (number + before.length) error) ∧
      (s.readLines number ((before ++ line :: after).map Utf8.encode)).chunks =
        reading s.scope (before.filterMap effective?) := by
  have hyields := readLines_yields number before h (.inr hbefore)
  have hoptions : (s.readLines number (before.map Utf8.encode)).session.options = s.options :=
    (Session.readLines_lawful s number _).setting.2.1
  rw [List.map_append, List.map_cons, Session.readLines_append,
    Outcome.failure_andThen hyields.failure, Outcome.chunks_andThen hyields.failure,
    hyields.stored, Session.readLines, Utf8.decode_encode, List.length_map]
  dsimp only
  rw [readLine_malformed _ (hoptions ▸ hstrict) hline, Outcome.andThen_fail]
  exact ⟨rfl, List.append_nil _⟩

/-! ### Compiling -/

/-- A session that has told its target and begun its file, on a sink that takes everything. -/
def opening (layout : Layout) (options : Options) : Outcome :=
  ((Session.start layout options .unlimited).report (.targetSelected layout.target)).andThen
    Session.begin

/-- A file that is begun has its beginning and no open package. -/
theorem opening_yields (layout : Layout) (options : Options) :
    (opening layout options).Yields [.preamble] none :=
  (Session.report_yields _ _).andThen (Session.begin_yields_preamble rfl rfl)

/-- A file that is begun is not hindered. -/
theorem opening_unhindered (layout : Layout) (options : Options) :
    (opening layout options).session.Unhindered :=
  Session.begin_unhindered rfl

/-- Beginning a file leaves the options. -/
theorem opening_options (layout : Layout) (options : Options) :
    (opening layout options).session.options = options :=
  (Session.begin_lawful _).setting.2.1

/-- Compiling a file is reading its lines and finishing the generated file. -/
theorem compile_lines (options : Options) (output : Option Path) (bytes : Bytes) :
    compile .unlimited options output (.ok bytes) =
      (opening (Layout.select options output) options).andThen fun s =>
        (s.readLines 1 (Line.split bytes)).andThen fun s =>
          s.closePackage.andThen Session.finish := by
  rw [opening, Outcome.andThen_assoc]
  simp only [compile, Session.readDefinitions, Session.readSource, Outcome.andThen_assoc]
  rfl

/-- A compilation spells chunks as its options say. -/
theorem compile_layout (admission : Admission) (options : Options) (output : Option Path)
    (source : Except AccessError Bytes) :
    (compile admission options output source).session.layout = Layout.select options output := by
  have hread := fun s : Session => (Session.readDefinitions_lawful s source).setting.1
  refine Outcome.andThen_keeps (P := fun s => s.layout = Layout.select options output) rfl ?_
  refine Outcome.andThen_keeps (P := fun s => s.layout = Layout.select options output)
    (hread _) ?_
  exact (Session.finish_layout _).trans (hread _)

/-- What a compilation writes is the spelling of its chunks. -/
theorem compile_written (admission : Admission) (options : Options) (output : Option Path)
    (source : Except AccessError Bytes) :
    (compile admission options output source).written =
      (Layout.select options output).spelling (compile admission options output source).chunks := by
  rw [Outcome.written, compile_layout]
  rfl

/-- Lines that spell texts are read as the encoded texts. -/
theorem readLines_texts {lines : List Bytes} {texts : List String}
    (h : lines.map Utf8.decode? = texts.map some) (s : Session) (number : Nat) :
    s.readLines number lines = s.readLines number (texts.map Utf8.encode) := by
  refine Session.readLines_congr ?_ s number
  have hdecode : lines.map Utf8.decode? = (texts.map Utf8.encode).map Utf8.decode? := by
    rw [h, List.map_map]
    exact List.map_congr_left fun text _ => (Utf8.decode_encode text).symm
  have hentries := congrArg (List.map (Option.map Entry.ofLine)) hdecode
  rwa [List.map_map, List.map_map] at hentries

/-- What a compilation writes, in terms of the effective lines of its file. -/
theorem compile_lines_yields {bytes : Bytes} {texts : List String} (options : Options)
    (output : Option Path) (htexts : (Line.split bytes).map Utf8.decode? = texts.map some)
    (h : options.strict = false ∨ ∀ line ∈ texts, malformed? line = none) :
    (compile .unlimited options output (.ok bytes)).Yields
      (fileChunks (items (texts.filterMap effective?))) none := by
  have hopening := opening_yields (Layout.select options output) options
  have hs := opening_unhindered (Layout.select options output) options
  have hoptions := opening_options (Layout.select options output) options
  simp only [compile_lines, readLines_texts htexts]
  rw [fileChunks, flatMap_items]
  generalize opening (Layout.select options output) options = o at hopening hs hoptions ⊢
  have hread := readLines_yields 1 texts hs (hoptions ▸ h)
  rw [hopening.scope] at hread
  have hs' := hs.of_lawful (Session.readLines_lawful _ 1 (texts.map Utf8.encode))
  have hclose := Session.closePackage_yields hs'
  have hfinish := Session.finish_yields (hs'.of_lawful (Session.closePackage_lawful _))
  rw [hread.scope] at hclose
  rw [hclose.scope] at hfinish
  rw [List.append_assoc]
  exact hopening.andThen (hread.andThen (hclose.andThen hfinish))

/-- How a compilation fails at the first malformed line of its file, if the options are strict. -/
theorem compile_lines_malformed {options : Options} {bytes : Bytes} {before after : List String}
    {line : String} {error : Malformed} (output : Option Path) (hstrict : options.strict = true)
    (htexts : (Line.split bytes).map Utf8.decode? = (before ++ line :: after).map some)
    (hbefore : ∀ l ∈ before, malformed? l = none) (hline : malformed? line = some error) :
    (compile .unlimited options output (.ok bytes)).failure =
        some (.malformed (before.length + 1) error) ∧
      (compile .unlimited options output (.ok bytes)).chunks =
        .preamble :: reading none (before.filterMap effective?) := by
  have hopening := opening_yields (Layout.select options output) options
  have hs := opening_unhindered (Layout.select options output) options
  have hoptions := opening_options (Layout.select options output) options
  simp only [compile_lines, readLines_texts htexts]
  generalize opening (Layout.select options output) options = o at hopening hs hoptions ⊢
  obtain ⟨hfailure, hchunks⟩ := readLines_malformed 1 after hs (hoptions ▸ hstrict) hbefore hline
  rw [hopening.scope] at hchunks
  rw [Outcome.failure_andThen hopening.failure, Outcome.chunks_andThen hopening.failure,
    Outcome.andThen_of_failure _ hfailure, hfailure, hchunks, hopening.stored, Nat.add_comm]
  exact ⟨rfl, rfl⟩

/-- The lines of an encoded text spell the lines of the text. -/
theorem decode_split_encode (input : String) :
    (Line.split (Utf8.encode input)).map Utf8.decode? = (Line.ofText input).map some := by
  rw [Line.split_encode, List.map_map]
  exact List.map_congr_left fun line _ => Utf8.decode_encode line

/-- What a compilation writes, in terms of the effective lines of its text. -/
theorem compile_yields {input : String} (options : Options) (output : Option Path)
    (h : options.strict = false ∨ ∀ line ∈ Line.ofText input, malformed? line = none) :
    (compile .unlimited options output (.ok (Utf8.encode input))).Yields
      (fileChunks (items ((Line.ofText input).filterMap effective?))) none :=
  compile_lines_yields options output (decode_split_encode input) h

/-- How a compilation fails at the first malformed line of its text, if the options are strict. -/
theorem compile_malformed {options : Options} {input : String} {before after : List String}
    {line : String} {error : Malformed} (output : Option Path) (hstrict : options.strict = true)
    (hlines : Line.ofText input = before ++ line :: after)
    (hbefore : ∀ l ∈ before, malformed? l = none) (hline : malformed? line = some error) :
    (compile .unlimited options output (.ok (Utf8.encode input))).failure =
        some (.malformed (before.length + 1) error) ∧
      (compile .unlimited options output (.ok (Utf8.encode input))).chunks =
        .preamble :: reading none (before.filterMap effective?) :=
  compile_lines_malformed output hstrict (hlines ▸ decode_split_encode input) hbefore hline

/-- The first malformed line of lines, some of which are malformed. -/
theorem exists_first_malformed {lines : List String} (h : ∃ line ∈ lines, malformed? line ≠ none) :
    ∃ before line after error, lines = before ++ line :: after ∧
      (∀ l ∈ before, malformed? l = none) ∧ malformed? line = some error := by
  obtain ⟨line, hmem, hline⟩ := h
  have hfind : (lines.find? fun l => (malformed? l).isSome).isSome := by
    rw [List.find?_isSome]
    exact ⟨line, hmem, Option.isSome_iff_ne_none.mpr hline⟩
  obtain ⟨first, hfirst⟩ := Option.isSome_iff_exists.mp hfind
  obtain ⟨hsome, before, after, hlines, hbefore⟩ := List.find?_eq_some_iff_append.mp hfirst
  obtain ⟨error, herror⟩ := Option.isSome_iff_exists.mp hsome
  refine ⟨before, first, after, error, hlines, ?_, herror⟩
  intro l hl
  simpa using hbefore l hl

/-- **Compilation equals the batch reference.** On a sink that takes everything, and unless the
options are strict and a line is malformed, a compilation succeeds and writes the reference
text. Otherwise it fails with the number of the first malformed line and what is wrong with it.
What it has written then lacks the closing of the last package and the end of the file; with
these it is the reference text of the lines before. -/
theorem compile_eq_reference (options : Options) (output : Option Path) (input : String) :
    let lines := Line.ofText input
    let layout := Layout.select options output
    let outcome := compile .unlimited options output (.ok (Utf8.encode input))
    (options.strict = false ∨ (∀ line ∈ lines, malformed? line = none) →
      outcome.failure = none ∧ outcome.written = text layout lines ∧
      compileText options input = .ok (text (Layout.select options none) lines)) ∧
    (options.strict = true → (∃ line ∈ lines, malformed? line ≠ none) →
      ∃ before line after error, lines = before ++ line :: after ∧
        (∀ l ∈ before, malformed? l = none) ∧ malformed? line = some error ∧
        compileText options input = .error (.malformed (before.length + 1) error) ∧
        outcome.failure = some (.malformed (before.length + 1) error) ∧
        outcome.written ++ String.join
            ((closings (lastPackage? (before.filterMap effective?)) ++ [Chunk.postamble]).map
              layout.text) =
          text layout before) := by
  intro lines layout outcome
  constructor
  · intro h
    have hyields := compile_yields options output h
    have hnone := compile_yields options none h
    refine ⟨hyields.failure, ?_, ?_⟩
    · rw [Outcome.written, compile_layout, hyields.stored]
      rfl
    · rw [compileText, hnone.failure, Outcome.written, compile_layout, hnone.stored]
      rfl
  · intro hstrict h
    obtain ⟨before, line, after, error, hlines, hbefore, hline⟩ := exists_first_malformed h
    obtain ⟨hfailure, hchunks⟩ := compile_malformed output hstrict hlines hbefore hline
    obtain ⟨hnone, -⟩ := compile_malformed none hstrict hlines hbefore hline
    refine ⟨before, line, after, error, hlines, hbefore, hline, ?_, hfailure, ?_⟩
    · rw [compileText, hnone]
    · rw [Outcome.written, compile_layout, hchunks, text, fileChunks, flatMap_items,
        scopeAfter_eq, Option.or_none, ← String.join_append, ← List.map_append,
        List.cons_append, List.append_assoc]

/-- A text whose third line is malformed: it compiles to the reference text if the options are
lenient, and fails at the malformed line if they are strict. -/
theorem compile_eq_reference_unpaired_brace :
    let input := "say \"hi \x7b0\x7d\"\r\npackage p\nend \"\x7b\"\n"
    let lines := Line.ofText input
    (({} : Options).strict = false ∧
      compileText {} input = .ok (text (Layout.select {} none) lines)) ∧
    (∃ line ∈ lines, malformed? line ≠ none) ∧
      ∃ before line after error, lines = before ++ line :: after ∧
        malformed? line = some error ∧
        compileText { strict := true } input = .error (.malformed (before.length + 1) error) := by
  intro input lines
  have hmalformed : ∃ line ∈ lines, malformed? line ≠ none := by decide
  refine ⟨⟨rfl, ((compile_eq_reference {} none input).1 (.inl rfl)).2.2⟩, hmalformed, ?_⟩
  obtain ⟨before, line, after, error, hlines, -, hline, hfails, -⟩ :=
    (compile_eq_reference { strict := true } none input).2 rfl hmalformed
  exact ⟨before, line, after, error, hlines, hline, hfails⟩

end Phrasebook.Reference
