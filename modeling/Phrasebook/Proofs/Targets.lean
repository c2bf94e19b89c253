import Phrasebook.Proofs.Reference
import Phrasebook.Proofs.Session.Coupling

/-!
# Targets only spell

The target of a compilation, the guard of its header and the path of its output decide how
chunks are spelled, and nothing else. On a sink that takes everything, two compilations that
differ in these write the same chunks, each in its own spelling; they succeed or fail alike,
count the same, and report the same, apart from the notice that names the target.

No decision of a session may then look at a spelled text. The one that does is that of the
sink, which sees how long a text is and whether it is empty. A sink that takes everything
takes each text all the same (`Respelled.write`), so the runs never part.

## Main results

* `targetCoupling`: runs that spell chunks differently are coupled.
* `exists_common_chunks`: all targets, guards and output paths spell the same chunks.
-/

namespace Phrasebook

/-- The sessions write to sinks that take everything and agree in all but how they spell chunks,
and the traces are the same. -/
structure Respelled (s : Session) (es : List Event) (t : Session) (fs : List Event) : Prop where
  trace : fs = es
  progress : t.progress = s.progress
  defined : t.defined = s.defined
  strict : t.options.strict = s.options.strict
  lint : t.options.lint = s.options.lint
  unlimited : s.sink.admission = .unlimited
  unlimited' : t.sink.admission = .unlimited

namespace Respelled

variable {s t : Session} {es fs : List Event}

/-- More events of the same kind on both sides. -/
theorem extend (h : Respelled s es t fs) (new : List Event) :
    Respelled s (es ++ new) t (fs ++ new) :=
  { h with trace := by rw [h.trace] }

/-- Sessions that differ in their spelling only still do so after the same progress. -/
theorem withProgress (h : Respelled s es t fs) (v : Progress) :
    Respelled (s.withProgress v) es (t.withProgress v) fs :=
  { h with progress := rfl }

/-- A chunk is stored by both runs, however each of them spells it. -/
theorem write (h : Respelled s es t fs) (chunk : Chunk) :
    Coupled Respelled NeverCut ((s.write chunk).after es) ((t.write chunk).after fs) := by
  have htakes {s : Session} (hu : s.sink.admission = .unlimited) :
      s.sink.takes (s.layout.text chunk) = true := by
    simp [Sink.takes, hu, Admission.unlimited]
  rw [Session.write_of_takes (htakes h.unlimited), Session.write_of_takes (htakes h.unlimited')]
  have hextended := h.extend [.stored chunk]
  refine .together none { hextended with unlimited := ?_, unlimited' := ?_ }
  · exact (Session.offer_admission _ _).trans h.unlimited
  · exact (Session.offer_admission _ _).trans h.unlimited'

end Respelled

/-- Runs that spell chunks differently go along with each other. -/
def targetCoupling : Coupling where
  InStep := Respelled
  Cut := NeverCut
  progress_eq h := h.progress
  inStep_withProgress v h := h.withProgress v
  cut_failure := @NeverCut.failure_ne_none
  cut_append := @NeverCut.append
  inStep_report {s t es fs n} h _ := h.extend [.notice n]
  write chunk h := h.write chunk
  examine m h := by
    refine .examine_alike m h.lint (congrArg Progress.scope h.progress) h.defined h ?_
    intro defined ns _
    exact { h.extend (ns.map .notice) with defined := rfl }
  reject number error h := by
    refine .reject_alike number error h.strict h ?_
    have hextended := h.extend [.notice (.lineSkipped number error)]
    exact { hextended with progress := congrArg Progress.countSkipped h.progress }

/-- **Targets only spell.** For every file, and for strict or lenient options with or without an
examination of messages, there are chunks, a result and notices that are common to all targets,
guard styles and output paths: on a sink that takes everything, the text that is written is the
spelling of these chunks, the result is this result, and the notices are that of the target and
then these. -/
theorem exists_common_chunks (strict lint : Bool) (source : Except AccessError Bytes) :
    ∃ (chunks : List Chunk) (result : Except Failure Summary) (notices : List Notice),
      ∀ (target : Target) (guard : GuardStyle) (output : Option Path),
        let options : Options := { target, guard, strict, lint }
        let o := compile .unlimited options output source
        o.written = (Layout.select options output).spelling chunks ∧
          o.result = result ∧ o.notices = .targetSelected target :: notices := by
  let reference :=
    (Session.start (Layout.select { strict, lint } none) { strict, lint } .unlimited).process source
  refine ⟨reference.chunks, reference.result, reference.notices, ?_⟩
  intro target guard output options o
  let other := (Session.start (Layout.select options output) options .unlimited).process source
  have hholds : targetCoupling.Holds reference other :=
    (Coupling.keeps_process source).of_inStep ⟨rfl, rfl, rfl, rfl, rfl, rfl, rfl⟩
  have ho : o = other.after [.notice (.targetSelected target)] :=
    compile_eq_process .unlimited options output source
  obtain ⟨h, -, hresult⟩ | hcut := hholds.cases
  · refine ⟨?_, ?_, ?_⟩
    · rw [Reference.compile_written, show o.chunks = other.chunks by rw [ho]; rfl, Outcome.chunks,
        h.trace]
      rfl
    · rw [ho]
      exact hresult
    · rw [ho, Outcome.notices, Outcome.notices, ← h.trace]
      rfl
  · exact hcut.elim

end Phrasebook
