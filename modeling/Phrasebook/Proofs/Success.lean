import Phrasebook.Proofs.Reference
import Phrasebook.Proofs.Session.Coupling
import Phrasebook.Proofs.Session.Counters

/-!
# Compilations that succeed

A sink may refuse a chunk, and then the compilation fails. So a compilation that succeeds has
been refused nothing, and has done what it would have done for a sink that takes everything.
This holds for every sink, whatever its rule: the two runs are in step as long as nothing is
refused (`Accepted`).

What a successful compilation writes is therefore known without its sink. It is the beginning of
the file, the items that the effective lines give, and the end.

## Main results

* `compile_unlimited_of_succeeds`: a compilation that succeeds leaves the trace of the one for a
  sink that takes everything.
* `compile_succeeds`: the lines of a file that is compiled with success, and the chunks written.
-/

namespace Phrasebook

/-- The first session writes to a sink that takes everything, the second one to any sink, and so far
nothing has been refused. -/
structure Accepted (s : Session) (es : List Event) (t : Session) (fs : List Event) : Prop where
  trace : fs = es
  session : t = { s with sink := t.sink }
  unlimited : s.sink.admission = .unlimited

/-- The second run has been refused a chunk. -/
def CutByRefusal (_ : List Event) (p : Outcome) : Prop :=
  p.failure ≠ none

namespace Accepted

variable {s t : Session} {es fs : List Event}

/-- The runs stay in step if both sessions change alike, apart from their sinks. -/
theorem change (h : Accepted s es t fs) {s' t' : Session} (new : List Event)
    (hsession : t' = { s' with sink := t.sink }) (hsink : s'.sink = s.sink) :
    Accepted s' (es ++ new) t' (fs ++ new) := by
  subst hsession
  exact ⟨by rw [h.trace], rfl, hsink ▸ h.unlimited⟩

/-- A chunk is stored by both runs, or it is refused by the second one, which ends there. -/
theorem write (h : Accepted s es t fs) (chunk : Chunk) :
    Coupled Accepted CutByRefusal ((s.write chunk).after es) ((t.write chunk).after fs) := by
  obtain ⟨rfl, ht, hunlimited⟩ := h
  have htakes : s.sink.takes (s.layout.text chunk) = true := by
    simp [Sink.takes, hunlimited, Admission.unlimited]
  rw [Session.write_of_takes htakes]
  by_cases htakes' : t.sink.takes (t.layout.text chunk) = true
  · rw [Session.write_of_takes htakes']
    refine .together none ⟨rfl, ?_, (Session.offer_admission _ _).trans hunlimited⟩
    rw [ht]
  · rw [Session.write_of_not_takes htakes']
    exact .parted (Option.some_ne_none _)

end Accepted

/-- A run for any sink goes along with the run for a sink that takes everything until it is refused
a chunk. -/
def admissionCoupling : Coupling where
  InStep := Accepted
  Cut := CutByRefusal
  progress_eq h := by
    rw [h.session]
    rfl
  inStep_withProgress {s t es fs} v h := by
    refine ⟨h.trace, ?_, h.unlimited⟩
    rw [h.session]
    rfl
  cut_failure h := h
  cut_append _ h := h
  inStep_report {s t es fs n} h _ := h.change [.notice n] h.session rfl
  write chunk h := h.write chunk
  examine m h := .examine_alike m (by rw [h.session]) (by rw [h.session]) (by rw [h.session]) h
    fun defined ns _ => h.change (ns.map .notice) (by rw [h.session]) rfl
  reject number error h := .reject_alike number error (by rw [h.session]) h
    (h.change [.notice (.lineSkipped number error)] (by rw [h.session]; rfl) rfl)

/-- **A compilation that succeeds** leaves the trace of the one for a sink that takes everything. -/
theorem compile_unlimited_of_succeeds {admission : Admission} {options : Options}
    {output : Option Path} {source : Except AccessError Bytes}
    (h : (compile admission options output source).failure = none) :
    (compile .unlimited options output source).failure = none ∧
      (compile admission options output source).trace =
        (compile .unlimited options output source).trace := by
  have hholds : admissionCoupling.Holds (compile .unlimited options output source)
      (compile admission options output source) := Coupling.holds_compile source ⟨rfl, rfl, rfl⟩
  obtain ⟨hin, hfailure, -⟩ | hcut := hholds.cases
  · exact ⟨hfailure.symm.trans h, hin.trace⟩
  · exact absurd h hcut

/-- If a compilation succeeds, no line of its file is malformed, unless the options are lenient. -/
theorem wellFormed_of_compile_succeeds {options : Options} {output : Option Path} {bytes : Bytes}
    {texts : List String} (htexts : (Line.split bytes).map Utf8.decode? = texts.map some)
    (h : (compile .unlimited options output (.ok bytes)).failure = none) :
    options.strict = false ∨ ∀ line ∈ texts, Reference.malformed? line = none := by
  refine Decidable.or_iff_not_imp_left.mpr fun hstrict => ?_
  rw [Bool.not_eq_false] at hstrict
  intro line hline
  by_contra hmalformed
  obtain ⟨before, first, after, error, rfl, hbefore, herror⟩ :=
    Reference.exists_first_malformed ⟨line, hline, hmalformed⟩
  obtain ⟨hfailure, -⟩ :=
    Reference.compile_lines_malformed output hstrict htexts hbefore herror
  cases h.symm.trans hfailure

/-- **What a compilation that succeeds has read and written**, whatever its sink: every line of the
file is text, none is malformed unless the options are lenient, each is accounted for, and the chunks
are those of the items that the effective lines give. -/
theorem compile_succeeds {admission : Admission} {options : Options} {output : Option Path}
    {bytes : Bytes} (h : (compile admission options output (.ok bytes)).failure = none) :
    ∃ texts : List String, (Line.split bytes).map Utf8.decode? = texts.map some ∧
      (options.strict = false ∨ ∀ line ∈ texts, Reference.malformed? line = none) ∧
      (compile admission options output (.ok bytes)).Accounts {} texts ∧
      (compile admission options output (.ok bytes)).chunks =
        fileChunks (Reference.items (texts.filterMap Reference.effective?)) := by
  obtain ⟨hunlimited, htrace⟩ := compile_unlimited_of_succeeds h
  obtain ⟨texts, htexts, haccounts⟩ := compile_accounts h
  have hwell := wellFormed_of_compile_succeeds htexts hunlimited
  refine ⟨texts, htexts, hwell, haccounts, ?_⟩
  rw [Outcome.chunks, htrace]
  exact (Reference.compile_lines_yields options output htexts hwell).stored

/-- A file with its beginning and its end around a text. -/
def Layout.enclose (layout : Layout) (body : String) : String :=
  layout.text .preamble ++ body ++ layout.text .postamble

/-- The text of a whole file is that of its items, enclosed. -/
theorem Layout.spelling_fileChunks (layout : Layout) (items : List Item) :
    layout.spelling (fileChunks items) =
      layout.enclose (layout.spelling (items.flatMap Item.chunks)) := by
  rw [fileChunks, ← List.singleton_append, spelling_append, spelling_append, enclose,
    String.append_assoc]
  simp [spelling]

/-- What a compilation has written whose chunks are those of items. -/
theorem written_eq_enclose {admission : Admission} {options : Options} {output : Option Path}
    {source : Except AccessError Bytes} {items : List Item}
    (h : (compile admission options output source).chunks = fileChunks items) :
    (compile admission options output source).written =
      (Layout.select options output).enclose
        ((Layout.select options output).spelling (items.flatMap Item.chunks)) := by
  rw [Reference.compile_written, h, Layout.spelling_fileChunks]

end Phrasebook
