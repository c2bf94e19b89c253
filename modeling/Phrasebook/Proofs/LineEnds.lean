import Mathlib.Logic.Relation
import Phrasebook.Compile
import Phrasebook.Proofs.Lexemes
import Phrasebook.Proofs.Lines
import Phrasebook.Proofs.Session.Unhindered

/-!
# Line ends do not matter

Cutting a file into lines takes away a line feed and at most one carriage return. Any other
blanks at the end of a line stay with it, and the reader of the line has to pass over them
wherever it stands: in a bare word, between two tokens, after a quoted run, inside a quoted run
that never ends, or in a comment. Bytes that are no text stay no text when blanks follow them.

A file is *respaced* by changes at the ends of its lines (`Line.Respaced`). One change puts blanks
before a line feed, or at the end of a last line that has no line feed, or gives that line its
line feed. Any number of changes can be made and undone.

## Main results

* `tokensFrom_append_blanks`, `isSilent_append_blanks`: blanks at the end of a line are passed
  over.
* `ofBytes?_append_blanks`: hence they do not change the entry of the line, nor whether it is text.
* `Respaced.entries_eq`: respacing a file changes no entry of a line.
* `compile_respaced`: respacing a file changes nothing in its compilation.
-/

namespace Phrasebook.Line

/-! ### Blanks at the end of a line -/

/-- Blanks have no tokens. -/
theorem tokensFrom_allBlank {blanks : List Char} (h : Text.AllBlank blanks) (column : Nat) :
    tokensFrom column .between blanks = .ok [] := by
  rw [← List.append_nil blanks, tokensFrom_blanks h, tokensFrom]

/-- Blanks at the end of a line are passed over, wherever its reader stands: the first one ends a
bare word, and none of them ends a quoted run. -/
theorem tokensFrom_append_blanks {blanks : List Char} (h : Text.AllBlank blanks) (column : Nat)
    (position : Position) (cs : List Char) :
    tokensFrom column position (cs ++ blanks) = tokensFrom column position cs := by
  induction cs generalizing column position with
  | nil =>
      rw [List.nil_append]
      cases position with
      | between => exact tokensFrom_allBlank h column
      | word text =>
          rcases blanks with - | ⟨b, blanks⟩
          · rfl
          · have hblanks : Text.AllBlank blanks := fun c hc => h c (List.mem_cons_of_mem b hc)
            simp only [tokensFrom, h b List.mem_cons_self, tokensFrom_allBlank hblanks]
            rfl
      | quoted opened text =>
          have hquote : '"' ∉ blanks := fun hmem => absurd (h _ hmem) (by decide)
          rw [← List.append_nil blanks, tokensFrom_quoted_append hquote, tokensFrom, tokensFrom]
  | cons c cs ih =>
      rw [List.cons_append]
      cases position with
      | between => simp only [tokensFrom, ih]
      | word text => simp only [tokensFrom, ih]
      | quoted opened text => simp only [tokensFrom, ih]

/-- Blanks at the end of a line make no line silent, and none speak. -/
theorem isSilent_append_blanks {blanks : List Char} (h : Text.AllBlank blanks) (cs : List Char) :
    isSilent (cs ++ blanks) = isSilent cs := by
  rw [isSilent, isSilent, Text.trimStart, Text.trimStart, List.dropWhile_append]
  cases cs.dropWhile Text.isBlank with
  | nil => simp [List.dropWhile_eq_nil_iff.mpr h]
  | cons c rest => rfl

/-- Blanks at the end of a line do not change its tokens. -/
theorem tokens_append_blanks {blanks : List Char} (h : Text.AllBlank blanks) (line : String) :
    tokens (line ++ String.ofList blanks) = tokens line := by
  rw [tokens, tokens, String.toList_append, String.toList_ofList, isSilent_append_blanks h,
    tokensFrom_append_blanks h]

/-- **Blanks at the end of a line do not change its entry**, nor whether it is text. -/
theorem ofBytes?_append_blanks {blanks : List Char} (h : Text.AllBlank blanks) (raw : Bytes) :
    Entry.ofBytes? (raw ++ Utf8.encode (String.ofList blanks)) = Entry.ofBytes? raw := by
  rw [Entry.ofBytes?, Entry.ofBytes?, Utf8.decode_append_encode, Option.map_map]
  congr 1
  funext line
  simp only [Function.comp_apply, Entry.ofLine, tokens_append_blanks h]

/-- A carriage return at the end of a line does not change its entry. -/
theorem ofBytes?_dropReturn (current : Bytes) :
    Entry.ofBytes? (dropReturn current).reverse = Entry.ofBytes? current.reverse := by
  rcases current with - | ⟨b, bs⟩
  · rfl
  · rw [dropReturn]
    split_ifs with hb
    · have hreturn : Utf8.encode (String.ofList ['\r']) = [b] := by
        rw [hb]
        decide +kernel
      rw [List.reverse_cons, ← hreturn, ofBytes?_append_blanks (by decide)]
    · rfl

/-! ### Respaced files -/

/-- Blanks that can stand at the end of a line. -/
structure LineBlanks where
  text : List Char
  blank : Text.AllBlank text
  unbroken : '\n' ∉ text

/-- The bytes of blanks at the end of a line. -/
def LineBlanks.bytes (blanks : LineBlanks) : Bytes :=
  Utf8.encode (String.ofList blanks.text)

/-- One change at the end of a line. -/
inductive RespacedOnce : Bytes → Bytes → Prop where
  /-- Blanks are put before a line feed. -/
  | beforeFeed (before after : Bytes) (blanks : LineBlanks) :
      RespacedOnce (before ++ lineFeed :: after) (before ++ blanks.bytes ++ lineFeed :: after)
  /-- Blanks are put at the end of a last line that has no line feed. -/
  | atEnd {bytes : Bytes} (h : ¬ Whole bytes) (blanks : LineBlanks) :
      RespacedOnce bytes (bytes ++ blanks.bytes)
  /-- A last line is given its line feed. -/
  | feed {bytes : Bytes} (h : ¬ Whole bytes) : RespacedOnce bytes (bytes ++ [lineFeed])

/-- Two files that differ by changes at the ends of their lines. -/
def Respaced : Bytes → Bytes → Prop :=
  Relation.EqvGen RespacedOnce

/-- A file with a carriage return before each line feed. -/
def withReturns (bytes : Bytes) : Bytes :=
  bytes.flatMap fun b => if b = lineFeed then [carriageReturn, lineFeed] else [b]

/-! ### What respacing keeps -/

namespace LineBlanks

/-- Blanks at the end of a line do not end it. -/
theorem lineFeed_not_mem (blanks : LineBlanks) : lineFeed ∉ blanks.bytes := by
  rw [bytes, Utf8.encode, String.toList_ofList, List.mem_flatMap]
  rintro ⟨c, hc, hmem⟩
  refine lineFeed_not_mem_encodeChar ?_ hmem
  rintro rfl
  exact blanks.unbroken hc

/-- A line with blanks at its end is still one line. -/
theorem lineFeed_not_mem_append (blanks : LineBlanks) {line : Bytes} (h : lineFeed ∉ line) :
    lineFeed ∉ line ++ blanks.bytes := by
  rw [List.mem_append, not_or]
  exact ⟨h, blanks.lineFeed_not_mem⟩

/-- A line with blanks at its end has the same entry. -/
theorem ofBytes?_append (blanks : LineBlanks) (line : Bytes) :
    Entry.ofBytes? (line ++ blanks.bytes) = Entry.ofBytes? line :=
  ofBytes?_append_blanks blanks.blank line

/-- The carriage return, as a blank at the end of a line. -/
def carriageReturn : LineBlanks where
  text := ['\r']
  blank := by decide
  unbroken := by decide

end LineBlanks

/-- The entries of the lines of a file, for those that are text. -/
def entries (bytes : Bytes) : List (Option (Except Malformed Entry)) :=
  (split bytes).map Entry.ofBytes?

/-- The entries of whole lines come before those of what follows them. -/
theorem entries_append {lines : Bytes} (h : Whole lines) (rest : Bytes) :
    entries (lines ++ rest) = entries lines ++ entries rest := by
  rw [entries, split_append h, List.map_append, entries, entries]

/-- The entry of a first line. -/
theorem entries_line {line : Bytes} (h : lineFeed ∉ line) (rest : Bytes) :
    entries (line ++ lineFeed :: rest) = Entry.ofBytes? line :: entries rest := by
  rw [entries, split_line h, List.map_cons, ofBytes?_dropReturn, List.reverse_reverse, entries]

/-- The entry of an only line without its line feed. -/
theorem entries_unfinished {line : Bytes} (h : lineFeed ∉ line) (hne : line ≠ []) :
    entries line = [Entry.ofBytes? line] := by
  rw [entries, split_unfinished h hne, List.map_singleton]

/-- A change at the end of a line changes no entry. -/
theorem RespacedOnce.entries_eq {bytes bytes' : Bytes} (h : RespacedOnce bytes bytes') :
    entries bytes' = entries bytes := by
  cases h with
  | beforeFeed before after blanks =>
      obtain ⟨lines, line, rfl, hlines, hline⟩ := exists_lastLine before
      simp only [List.append_assoc lines]
      rw [entries_append hlines, entries_append hlines,
        entries_line (blanks.lineFeed_not_mem_append hline), entries_line hline,
        blanks.ofBytes?_append]
  | atEnd h blanks =>
      obtain ⟨lines, line, rfl, hlines, hline, hne⟩ := exists_unfinished h
      rw [List.append_assoc, entries_append hlines, entries_append hlines,
        entries_unfinished (blanks.lineFeed_not_mem_append hline)
          (List.append_ne_nil_of_left_ne_nil hne _),
        entries_unfinished hline hne, blanks.ofBytes?_append]
  | feed h =>
      obtain ⟨lines, line, rfl, hlines, hline, hne⟩ := exists_unfinished h
      rw [List.append_assoc, entries_append hlines, entries_append hlines, entries_line hline,
        entries_unfinished hline hne]
      rfl

/-- **Respacing a file changes no entry of a line.** -/
theorem Respaced.entries_eq {bytes bytes' : Bytes} (h : Respaced bytes bytes') :
    entries bytes' = entries bytes := by
  induction h with
  | rel _ _ hstep => exact hstep.entries_eq
  | refl bytes => rfl
  | symm _ _ _ ih => exact ih.symm
  | trans _ _ _ _ _ ih ih' => exact ih'.trans ih

/-- Carriage returns before the line feeds respace a file. -/
theorem respaced_append_withReturns (before bytes : Bytes) :
    Respaced (before ++ bytes) (before ++ withReturns bytes) := by
  induction bytes generalizing before with
  | nil => exact .refl _
  | cons b bytes ih =>
      rw [withReturns, List.flatMap_cons, ← withReturns]
      split_ifs with hb
      · subst hb
        have hreturn := RespacedOnce.beforeFeed before bytes .carriageReturn
        have hrest := ih (before ++ [carriageReturn, lineFeed])
        simp only [List.append_assoc] at hreturn hrest
        exact .trans _ _ _ (.rel _ _ hreturn) hrest
      · have hrest := ih (before ++ [b])
        rwa [List.append_assoc, List.append_assoc] at hrest

end Phrasebook.Line

namespace Phrasebook

/-- Files whose lines have the same entries are compiled alike. -/
theorem compile_congr_entries {bytes bytes' : Bytes}
    (h : Line.entries bytes' = Line.entries bytes) (admission : Admission) (options : Options)
    (output : Option Path) :
    compile admission options output (.ok bytes') =
      compile admission options output (.ok bytes) := by
  simp only [compile, Session.readDefinitions, Session.readSource, Session.readLines_congr h]

/-- **Line ends and blanks before them do not matter.** Whatever the sink, the options and the
output path are, a file and the same file respaced have one and the same outcome: the session
with its summary, the trace of what was written and reported, and the failure. In particular
each line feed may have a carriage return before it. -/
theorem compile_respaced (admission : Admission) (options : Options) (output : Option Path)
    (bytes : Bytes) :
    (∀ bytes', Line.Respaced bytes bytes' →
      compile admission options output (.ok bytes') =
        compile admission options output (.ok bytes)) ∧
    compile admission options output (.ok (Line.withReturns bytes)) =
      compile admission options output (.ok bytes) := by
  refine ⟨fun bytes' h => compile_congr_entries h.entries_eq admission options output, ?_⟩
  have hreturns : Line.Respaced bytes (Line.withReturns bytes) :=
    Line.respaced_append_withReturns [] bytes
  exact compile_congr_entries hreturns.entries_eq admission options output

/-- The third line, whose quoted run never ends, gets a tabulator and a wide blank; the last line,
which is no text, gets a blank of two bytes and a line feed. The quote is still reported where it
was opened, and the last line is still no text. -/
theorem compile_respaced_unterminated_and_broken :
    let quote := Utf8.encode "package p\nm \"\x7b0\x7d\"\nq \"open"
    let rest := Utf8.encode "# \"\n" ++ [0x6D, 0xE2, 0x80]
    let wide : Line.LineBlanks := ⟨['\t', '\u3000'], by decide, by decide⟩
    let nextLine : Line.LineBlanks := ⟨['\u0085'], by decide, by decide⟩
    let bytes := quote ++ Line.lineFeed :: rest
    let bytes' := quote ++ wide.bytes ++ Line.lineFeed :: rest ++ nextLine.bytes ++ [Line.lineFeed]
    let o := compile .unlimited {} none (.ok bytes)
    Line.Respaced bytes bytes' ∧ .lineSkipped 3 (.unterminatedQuote 3) ∈ o.notices ∧
      o.failure = some (.access .invalidText) ∧
      compile .unlimited {} none (.ok bytes') = o ∧
      compile .unlimited {} none (.ok (Line.withReturns bytes)) = o := by
  intro quote rest wide nextLine bytes bytes'
  have hwide : Line.RespacedOnce bytes (quote ++ wide.bytes ++ Line.lineFeed :: rest) :=
    .beforeFeed quote rest wide
  have hnextLine : Line.RespacedOnce (quote ++ wide.bytes ++ Line.lineFeed :: rest)
      (quote ++ wide.bytes ++ Line.lineFeed :: rest ++ nextLine.bytes) :=
    .atEnd (by decide +kernel) nextLine
  have hfeed : Line.RespacedOnce
      (quote ++ wide.bytes ++ Line.lineFeed :: rest ++ nextLine.bytes) bytes' :=
    .feed (by decide +kernel)
  have hrespaced : Line.Respaced bytes bytes' :=
    .trans _ _ _ (.rel _ _ hwide) (.trans _ _ _ (.rel _ _ hnextLine) (.rel _ _ hfeed))
  obtain ⟨hsame, hreturns⟩ := compile_respaced .unlimited {} none bytes
  exact ⟨hrespaced, by decide +kernel, by decide +kernel, hsame bytes' hrespaced, hreturns⟩

end Phrasebook
