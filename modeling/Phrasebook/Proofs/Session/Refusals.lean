import Mathlib.Data.List.Basic
import Phrasebook.Proofs.Session.Runs

/-!
# What holds when the sink refuses

A sink may refuse any chunk, and the steps of a session go on after a refusal. The file is
then no longer well bracketed: an opening may lack its closing, and a function may lack its
package. This module says what is still true of every run, whatever the sink refuses and
however often.

* The beginning is tried at most once and before everything else.
* Among the openings and closings that were stored, a closing comes right after the opening of
  the same name.
* The counters are the numbers of openings and of functions that were stored.
* While a package is open, its opening is the last opening or closing that was stored.

The invariant (`Accounted`) joins these to the standing of the session, which is what makes
them survive a step that fails halfway: the standing has moved on exactly as far as the
events say.

## Main results

* `Accounted.step` / `Accounted.of_run`: the invariant, event by event and after every run.
* `run_accounted`: the four facts, after every run, finished or not.
-/

namespace Phrasebook

/-- Every closing comes right after the opening of the same name. -/
def ClosesInTurn (boundaries : List Chunk) : Prop :=
  ∀ before name after, boundaries = before ++ .closing name :: after →
    before.getLast? = some (.opening name)

/-- The openings and closings among chunks. -/
def boundaries (chunks : List Chunk) : List Chunk :=
  chunks.filter Chunk.isBoundary

/-- The openings and closings among two rows of chunks. -/
theorem boundaries_append (cs ds : List Chunk) :
    boundaries (cs ++ ds) = boundaries cs ++ boundaries ds :=
  List.filter_append _ _

/-- What was stored was tried, in the same order. -/
theorem storedChunks_sublist (trace : List Event) :
    (storedChunks trace).Sublist (triedChunks trace) := by
  induction trace with
  | nil => exact List.Sublist.slnil
  | cons e trace ih =>
      cases e with
      | stored c => exact ih.cons_cons c
      | refused c => exact ih.cons c
      | notice n => exact ih

/-- One more chunk after boundaries that close in turn. -/
theorem ClosesInTurn.snoc {bs : List Chunk} {c : Chunk} (h : ClosesInTurn bs)
    (hc : ∀ name, c = .closing name → bs.getLast? = some (.opening name)) :
    ClosesInTurn (bs ++ [c]) := by
  intro before name after hsplit
  rcases List.eq_nil_or_concat after with rfl | ⟨after, d, rfl⟩
  · obtain ⟨rfl, hlast⟩ := List.append_inj' hsplit rfl
    exact hc name (List.singleton_inj.mp hlast)
  · rw [List.concat_eq_append, ← List.cons_append, ← List.append_assoc] at hsplit
    obtain ⟨hfront, -⟩ := List.append_inj' hsplit rfl
    exact h before name after hfront

/-- Nothing was tried before the beginning, and the beginning was not tried again. -/
def TriesBeginningOnce (v : Standing) (tried : List Chunk) : Prop :=
  v.started = false ∧ v.scope = none ∧ tried = [] ∨
    v.started = true ∧ ∃ rest, tried = .preamble :: rest ∧ .preamble ∉ rest

/-- Trying a permitted chunk does not try the beginning again. -/
theorem TriesBeginningOnce.snoc {v w : Standing} {tried : List Chunk} {c : Chunk}
    (h : TriesBeginningOnce v tried) (hp : v.PermitsChunk c)
    (hw : w.started = (v.started || c == .preamble)) : TriesBeginningOnce w (tried ++ [c]) := by
  obtain ⟨hfresh, hscope, rfl⟩ | ⟨hstarted, rest, rfl, hrest⟩ := h
  · cases c with
    | preamble => exact .inr ⟨by simpa [hfresh] using hw, [], rfl, List.not_mem_nil⟩
    | opening name => exact absurd (hfresh.symm.trans hp.1) (by simp)
    | closing name => exact absurd (hscope.symm.trans hp) (by simp)
    | function m => exact absurd (hfresh.symm.trans hp) (by simp)
    | postamble => exact absurd (hfresh.symm.trans hp.1) (by simp)
  · have hc : c ≠ .preamble := by
      rintro rfl
      exact absurd (hstarted.symm.trans hp) (by simp)
    refine .inr ⟨by simpa [hstarted] using hw, rest ++ [c], rfl, ?_⟩
    simp [hrest, Ne.symm hc]

/-- What a standing and the events before it have in common, whatever the sink refuses. -/
structure Accounted (past : List Event) (v : Standing) : Prop where
  /-- The beginning was tried once and first, or nothing was tried. -/
  tried : TriesBeginningOnce v (triedChunks past)
  /-- Every closing that was stored comes right after the opening of the same name. -/
  inTurn : ClosesInTurn (boundaries (storedChunks past))
  /-- The opening of the package that is open is the last boundary. -/
  last : ∀ name, v.scope = some name →
    (boundaries (storedChunks past)).getLast? = some (.opening name)

namespace Accounted

/-- A stored chunk keeps the account. -/
theorem stored {past : List Event} {v : Standing} {c : Chunk} (h : Accounted past v)
    (hp : v.PermitsChunk c) : Accounted (past ++ [.stored c]) (v.after (.stored c)) := by
  obtain ⟨htried, hturn, hlast⟩ := h
  have htried' : TriesBeginningOnce (v.after (.stored c)) (triedChunks (past ++ [.stored c])) := by
    rw [triedChunks_snoc_stored]
    exact htried.snoc hp (by cases c <;> simp [Standing.after])
  refine ⟨htried', ?_, ?_⟩ <;> rw [storedChunks_snoc_stored, boundaries_append]
  · cases c with
    | preamble | function m | postamble => exact (List.append_nil _).symm ▸ hturn
    | opening name => exact hturn.snoc (by simp)
    | closing name =>
        refine hturn.snoc ?_
        rintro _ ⟨rfl⟩
        exact hlast name hp
  · intro name hscope
    cases c with
    | preamble | function m | postamble => exact (List.append_nil _).symm ▸ hlast name hscope
    | opening opened =>
        obtain rfl : opened = name := Option.some.inj hscope
        exact List.getLast?_concat
    | closing closed => exact absurd hscope (by simp [Standing.after])

/-- A refused chunk keeps the account. -/
theorem refused {past : List Event} {v : Standing} {c : Chunk} (h : Accounted past v)
    (hp : v.PermitsChunk c) : Accounted (past ++ [.refused c]) (v.after (.refused c)) := by
  obtain ⟨htried, hturn, hlast⟩ := h
  refine ⟨?_, ?_, ?_⟩
  · rw [triedChunks_snoc_refused]
    exact htried.snoc hp (by cases c <;> simp [Standing.after])
  · rwa [storedChunks_snoc_refused]
  · rw [storedChunks_snoc_refused]
    intro name hscope
    cases c with
    | preamble | function m | postamble | opening opened => exact hlast name hscope
    | closing closed => exact absurd hscope (by simp [Standing.after])

/-- Every permitted event keeps the account. -/
theorem step {past : List Event} {v : Standing} {e : Event} (h : Accounted past v)
    (hp : v.Permits e) : Accounted (past ++ [e]) (v.after e) := by
  cases e with
  | stored c => exact h.stored hp.1
  | refused c => exact h.refused hp.1
  | notice n =>
      obtain ⟨htried, hturn, hlast⟩ := h
      exact ⟨by rwa [triedChunks_snoc_notice], by rwa [storedChunks_snoc_notice],
        by rwa [storedChunks_snoc_notice]⟩

/-- Every run keeps the account. -/
theorem of_run (layout : Layout) (options : Options) (admission : Admission)
    (steps : List Step) :
    Accounted ((Session.start layout options admission).run steps).trace
      ((Session.start layout options admission).run steps).session.standing := by
  refine Session.run_invariant (fun _ _ _ => step) ⟨.inl ⟨rfl, rfl, rfl⟩, ?_, nofun⟩ steps
  intro before name after hsplit
  exact absurd hsplit (by simp [boundaries, storedChunks])

/-- Finishing keeps the account. -/
theorem of_finish {s : Session} {past : List Event} (h : Accounted past s.standing) :
    Accounted (past ++ s.finish.trace) s.finish.session.standing := by
  refine Session.finish_invariant (fun _ _ _ => step) ?_ h
  rintro past v e ha hp (rfl | rfl)
  · exact ha.stored hp
  · exact ha.refused hp

/-- If the beginning was stored, it was stored first. -/
theorem head_stored {past : List Event} {v : Standing} (h : Accounted past v)
    (hmem : .preamble ∈ storedChunks past) : (storedChunks past).head? = some .preamble := by
  have hsub := storedChunks_sublist past
  obtain ⟨-, -, hnone⟩ | ⟨-, rest, hrest, hnot⟩ := h.tried
  · rw [hnone, List.sublist_nil] at hsub
    rw [hsub] at hmem
    exact absurd hmem List.not_mem_nil
  · rw [hrest, List.sublist_cons_iff] at hsub
    obtain hlater | ⟨stored, hstored, -⟩ := hsub
    · exact absurd (hlater.subset hmem) hnot
    · rw [hstored]
      rfl

end Accounted

/-- **What holds when writes fail.** Take any steps of a session, in any order, and a sink that
takes and refuses chunks in any pattern; finish the session or not. Then

* nothing was tried, or the beginning was tried first and only then, so that it is the first
  chunk stored if it is stored;
* every closing that was stored comes right after the opening of the same name among the
  openings and closings that were stored;
* the counters are the numbers of functions and of openings that were stored;
* if a package is open, its opening is the last opening or closing that was stored.

The steps taken so far are themselves such a run, so all of this holds after each step. -/
theorem run_accounted (layout : Layout) (options : Options) (admission : Admission)
    (steps : List Step) (finishing : Bool) :
    let unfinished := (Session.start layout options admission).run steps
    let o := if finishing then unfinished.regardless Session.finish else unfinished
    (triedChunks o.trace = [] ∨
        ∃ rest, triedChunks o.trace = .preamble :: rest ∧ .preamble ∉ rest) ∧
      (.preamble ∈ o.chunks → o.chunks.head? = some .preamble) ∧
      ClosesInTurn (boundaries o.chunks) ∧
      o.session.summary.functions = o.chunks.countP Chunk.isFunction ∧
      o.session.summary.namespaces = o.chunks.countP Chunk.isOpening ∧
      ∀ name, o.session.scope = some name →
        (boundaries o.chunks).getLast? = some (.opening name) := by
  intro unfinished o
  have haccounted := Accounted.of_run layout options admission steps
  have hcounted := Counted.of_run layout options admission steps
  have ho : Accounted o.trace o.session.standing ∧ Counted o.trace o.session.standing := by
    cases finishing with
    | false => exact ⟨haccounted, hcounted⟩
    | true => exact ⟨haccounted.of_finish, hcounted.of_finish⟩
  obtain ⟨ha, hc⟩ := ho
  refine ⟨?_, ha.head_stored, ha.inTurn, hc.functions, hc.namespaces, ha.last⟩
  obtain ⟨-, -, hnone⟩ | ⟨-, hfirst⟩ := ha.tried
  · exact .inl hnone
  · exact .inr hfirst

end Phrasebook
