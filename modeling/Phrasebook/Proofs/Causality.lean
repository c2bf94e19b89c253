import Mathlib.Data.List.Induction
import Phrasebook.Proofs.Reference

/-!
# Compilations are causal

A compilation reads its file from the front and decides everything about a line when it comes
to that line. What it has done up to the end of some lines (`compileLines`) is therefore the
same whatever follows them: more lines, bytes that are no text, or nothing at all. If one of
these lines ends the compilation, it ends there in every file that begins with them. If not, the
rest of the file only adds to what has been reported and written.

Bytes are cut into lines before they are read as text, and each line is read on its own. So
bytes that are no text take nothing away from the lines before them.

## Main results

* `compile_append`: a compilation of two parts of a file, the first of which is whole lines.
* `failsAt_iff`: where a compilation can fail before the end of some lines.
* `compile_causal`: what follows some lines cannot change what they did.
-/

namespace Phrasebook

/-- A compilation up to the end of some lines: it tells its target, begins the file and reads the
lines. The end of the file has not been seen, so no package is closed because of it. -/
def compileLines (admission : Admission) (options : Options) (output : Option Path)
    (lines : List Bytes) : Outcome :=
  let s := Session.start (Layout.select options output) options admission
  (s.report (.targetSelected s.layout.target)).andThen fun s =>
  s.begin.andThen fun s =>
  s.readLines 1 lines

/-- What a compilation does after it has read some lines: it reads the others, closes the package
that is open and finishes the file. -/
def Session.conclude (s : Session) (number : Nat) (lines : List Bytes) : Outcome :=
  (s.readLines number lines).andThen fun s => s.closePackage.andThen finish

/-- A compilation fails with this failure at the beginning of its file or at one of these lines. -/
inductive FailsAt (admission : Admission) (options : Options) (output : Option Path)
    (lines : List Bytes) : Failure → Prop
  /-- The beginning of the file is refused. -/
  | beginning {failure : Failure}
      (h : (compileLines admission options output []).failure = some failure) :
      FailsAt admission options output lines failure
  /-- All goes well up to a line that is no text. -/
  | noText {before after : List Bytes} {raw : Bytes} (hlines : lines = before ++ raw :: after)
      (hbefore : (compileLines admission options output before).failure = none)
      (hraw : Utf8.decode? raw = none) :
      FailsAt admission options output lines (.access .invalidText)
  /-- All goes well up to a line that is text, and reading it fails. -/
  | reading {before after : List Bytes} {raw : Bytes} {line : String} {failure : Failure}
      (hlines : lines = before ++ raw :: after)
      (hbefore : (compileLines admission options output before).failure = none)
      (hraw : Utf8.decode? raw = some line)
      (h : ((compileLines admission options output before).session.readLine (1 + before.length)
        line).failure = some failure) :
      FailsAt admission options output lines failure

section

variable {admission : Admission} {options : Options} {output : Option Path}

/-! ### Parts of a file -/

/-- Lines are read one part after the other. -/
theorem compileLines_append (before after : List Bytes) :
    compileLines admission options output (before ++ after) =
      (compileLines admission options output before).andThen fun s =>
        s.readLines (1 + before.length) after := by
  simp only [compileLines, Session.readLines_append, Outcome.andThen_assoc]

/-- **A compilation of two parts of a file**, the first of which is whole lines: the lines of the
first part come to their end before anything is done for the second one. -/
theorem compile_append {head : Bytes} (hhead : Line.Whole head) (tail : Bytes) :
    compile admission options output (.ok (head ++ tail)) =
      (compileLines admission options output (Line.split head)).andThen fun s =>
        s.conclude (1 + (Line.split head).length) (Line.split tail) := by
  simp only [compile, compileLines, Session.readDefinitions, Session.readSource, Session.conclude,
    Line.split_append hhead, Session.readLines_append, Outcome.andThen_assoc]

/-- Every compilation is spelled in the layout that its options and its output select. -/
theorem compileLines_layout (lines : List Bytes) :
    (compileLines admission options output lines).session.layout = Layout.select options output := by
  refine Outcome.andThen_keeps (P := fun s => s.layout = Layout.select options output) rfl ?_
  have hbegin := fun s : Session => (Session.begin_lawful s).setting.1
  have hread := fun s : Session => (Session.readLines_lawful s 1 lines).setting.1
  exact Outcome.andThen_keeps (P := fun s => s.layout = Layout.select options output) (hbegin _)
    ((hread _).trans (hbegin _))

/-! ### Failing early -/

namespace FailsAt

variable {lines : List Bytes} {failure : Failure}

/-- More lines do not change where a compilation fails. -/
theorem append (h : FailsAt admission options output lines failure) (more : List Bytes) :
    FailsAt admission options output (lines ++ more) failure := by
  cases h with
  | beginning h => exact .beginning h
  | noText hlines hbefore hraw =>
      subst hlines
      exact .noText (List.append_assoc _ _ _) hbefore hraw
  | reading hlines hbefore hraw h =>
      subst hlines
      exact .reading (List.append_assoc _ _ _) hbefore hraw h

/-- A compilation that fails at one of its lines has failed by their end. -/
theorem failure_eq (h : FailsAt admission options output lines failure) :
    (compileLines admission options output lines).failure = some failure := by
  cases h with
  | beginning h =>
      rw [← List.nil_append lines, compileLines_append, Outcome.andThen_of_failure _ h, h]
  | noText hlines hbefore hraw =>
      rw [hlines, compileLines_append, Outcome.failure_andThen hbefore, Session.readLines, hraw]
      rfl
  | reading hlines hbefore hraw h =>
      rw [hlines, compileLines_append, Outcome.failure_andThen hbefore, Session.readLines, hraw]
      dsimp only
      rw [Outcome.andThen_of_failure _ h, h]

end FailsAt

/-- **Where a compilation can fail before the end of some lines**: at the beginning of the file, at a
line that is no text, or at a line whose reading fails. The induction takes lines off at the end, so
that those before the last one are a compilation too. -/
theorem failsAt_iff {lines : List Bytes} {failure : Failure} :
    FailsAt admission options output lines failure ↔
      (compileLines admission options output lines).failure = some failure := by
  refine ⟨FailsAt.failure_eq, ?_⟩
  induction lines using List.reverseRecOn with
  | nil => exact .beginning
  | append_singleton before raw ih =>
      intro h
      cases hbefore : (compileLines admission options output before).failure with
      | some first =>
          rw [compileLines_append, Outcome.andThen_of_failure _ hbefore] at h
          exact (ih h).append [raw]
      | none =>
          rw [compileLines_append, Outcome.failure_andThen hbefore, Session.readLines] at h
          cases hraw : Utf8.decode? raw with
          | none =>
              rw [hraw] at h
              obtain rfl := Option.some.inj h
              exact .noText rfl hbefore hraw
          | some line =>
              rw [hraw] at h
              dsimp only at h
              refine .reading rfl hbefore hraw ?_
              cases hline : ((compileLines admission options output before).session.readLine
                  (1 + before.length) line).failure with
              | some first => rwa [Outcome.andThen_of_failure _ hline, hline] at h
              | none =>
                  rw [Outcome.failure_andThen hline] at h
                  cases h

end

/-! ### The main result -/

/-- What follows some lines only adds to what they did, if they do not end the compilation. -/
theorem compile_extends {admission : Admission} {options : Options} {output : Option Path}
    {head : Bytes} (hhead : Line.Whole head)
    (h : (compileLines admission options output (Line.split head)).failure = none) (tail : Bytes) :
    let early := compileLines admission options output (Line.split head)
    let o := compile admission options output (.ok (head ++ tail))
    early.notices <+: o.notices ∧ ∃ rest, o.written = early.written ++ rest := by
  intro early o
  let after := early.session.conclude (1 + (Line.split head).length) (Line.split tail)
  have hnotices : o.notices = early.notices ++ after.notices := by
    simp only [o, compile_append hhead tail]
    exact Outcome.notices_andThen h
  have hchunks : o.chunks = early.chunks ++ after.chunks := by
    simp only [o, compile_append hhead tail]
    exact Outcome.chunks_andThen h
  have hearly : early.written = (Layout.select options output).spelling early.chunks := by
    rw [Outcome.written, compileLines_layout]
    rfl
  refine ⟨⟨after.notices, hnotices.symm⟩, (Layout.select options output).spelling after.chunks, ?_⟩
  rw [Reference.compile_written, hchunks, Layout.spelling_append, hearly]

/-- A line that is no text ends a compilation with what the lines before it did. -/
theorem compile_noText {admission : Admission} {options : Options} {output : Option Path}
    {head tail raw : Bytes} {after : List Bytes} (hhead : Line.Whole head)
    (h : (compileLines admission options output (Line.split head)).failure = none)
    (htail : Line.split tail = raw :: after) (hraw : Utf8.decode? raw = none) :
    compile admission options output (.ok (head ++ tail)) =
      { compileLines admission options output (Line.split head) with
        failure := some (.access .invalidText) } := by
  rw [compile_append hhead tail, Outcome.andThen, h]
  dsimp only
  rw [Session.conclude, htail, Session.readLines, hraw, Outcome.andThen_fail]
  simp [Outcome.fail]

/-- **Compilations are causal.** Take two files that begin with the same whole lines, and compile
them with the same options, for the same output path and sink. Both compilations come to the end
of these lines in the same way, and then conclude their files.

* If the one compilation fails at the beginning of its file or at one of these lines, both fail
  with the same failure, and they have reported and written the same.
* Otherwise both begin with what the beginning of the file and these lines have reported and
  written, before anything is closed because the file ends.
* In particular, if the lines are followed by one that is no text, exactly this much has been
  reported and written when the compilation fails. -/
theorem compile_causal (admission : Admission) (options : Options) (output : Option Path)
    (head tail tail' : Bytes) (hhead : Line.Whole head) :
    let lines := Line.split head
    let early := compileLines admission options output lines
    let o := compile admission options output (.ok (head ++ tail))
    let o' := compile admission options output (.ok (head ++ tail'))
    (o = early.andThen fun s => s.conclude (1 + lines.length) (Line.split tail)) ∧
    (o' = early.andThen fun s => s.conclude (1 + lines.length) (Line.split tail')) ∧
    (∀ failure, FailsAt admission options output lines failure →
      o.failure = some failure ∧ o'.failure = some failure ∧
        o'.notices = o.notices ∧ o'.written = o.written) ∧
    ((∀ failure, ¬ FailsAt admission options output lines failure) →
      early.notices <+: o.notices ∧ early.notices <+: o'.notices ∧
        (∃ rest, o.written = early.written ++ rest) ∧
        (∃ rest', o'.written = early.written ++ rest') ∧
        ∀ raw after, Line.split tail = raw :: after → Utf8.decode? raw = none →
          o.failure = some (.access .invalidText) ∧
            o.notices = early.notices ∧ o.written = early.written) := by
  intro lines early o o'
  have ho : o = _ := compile_append hhead tail
  have ho' : o' = _ := compile_append hhead tail'
  refine ⟨ho, ho', ?_, ?_⟩
  · intro failure hfails
    have hfailure : early.failure = some failure := failsAt_iff.mp hfails
    rw [ho, ho', Outcome.andThen_of_failure _ hfailure, Outcome.andThen_of_failure _ hfailure]
    exact ⟨hfailure, hfailure, rfl, rfl⟩
  · intro hgoes
    have hnone : early.failure = none := by
      cases hfailure : early.failure with
      | none => rfl
      | some failure => exact absurd (failsAt_iff.mpr hfailure) (hgoes failure)
    obtain ⟨hnotices, hwritten⟩ := compile_extends hhead hnone tail
    obtain ⟨hnotices', hwritten'⟩ := compile_extends hhead hnone tail'
    refine ⟨hnotices, hnotices', hwritten, hwritten', ?_⟩
    intro raw after htail hraw
    have hends : o = { early with failure := some (.access .invalidText) } :=
      compile_noText hhead hnone htail hraw
    rw [hends]
    exact ⟨rfl, rfl, rfl⟩

/-- A file whose lines are followed by a byte that is no text, compared with one whose lines are
followed by another message; and, for strict options, files whose first line is malformed. -/
theorem compile_causal_broken_byte :
    let compileWith := fun strict bytes => compile (.upTo 400) { strict } none (.ok bytes)
    let head := Utf8.encode "package p\nm x\r\n"
    let early := compileLines (.upTo 400) {} none (Line.split head)
    let broken := compileWith false (head ++ [0xFF, 0x0A])
    let longer := compileWith false (head ++ Utf8.encode "n y\n")
    let quote := Utf8.encode "q \"\n"
    (Line.Whole head ∧ early.failure = none ∧ .generatingFunction "m" 0 ∈ early.notices ∧
      broken.failure = some (.access .invalidText) ∧ broken.notices = early.notices ∧
      broken.written = early.written ∧ ∃ rest, longer.written = early.written ++ rest) ∧
    Line.Whole quote ∧
      (compileWith true (quote ++ [0xFF])).failure =
        some (.malformed 1 (.unterminatedQuote 3)) ∧
      (compileWith true (quote ++ head)).failure = some (.malformed 1 (.unterminatedQuote 3)) ∧
      (compileWith true (quote ++ head)).written = (compileWith true (quote ++ [0xFF])).written := by
  intro compileWith head early broken longer quote
  have hhead : Line.Whole head := by decide +kernel
  have hquote : Line.Whole quote := by decide +kernel
  have hnone : early.failure = none := by decide +kernel
  have hgoes : ∀ failure, ¬ FailsAt (.upTo 400) {} none (Line.split head) failure := by
    intro failure hfails
    cases hnone.symm.trans (failsAt_iff.mp hfails)
  have hfails : FailsAt (.upTo 400) { strict := true } none (Line.split quote)
      (.malformed 1 (.unterminatedQuote 3)) := by
    rw [failsAt_iff]
    decide +kernel
  obtain ⟨-, -, -, hlonger, hbroken⟩ :=
    (compile_causal (.upTo 400) {} none head [0xFF, 0x0A] (Utf8.encode "n y\n") hhead).2.2.2 hgoes
  obtain ⟨hmalformed, hmalformed', -, hsame⟩ :=
    (compile_causal (.upTo 400) { strict := true } none quote [0xFF] head hquote).2.2.1 _ hfails
  have hend := hbroken [0xFF] [] (by decide +kernel) (by decide +kernel)
  exact ⟨⟨hhead, hnone, by decide +kernel, hend.1, hend.2.1, hend.2.2, hlonger⟩, hquote,
    hmalformed, hmalformed', hsame⟩

end Phrasebook
