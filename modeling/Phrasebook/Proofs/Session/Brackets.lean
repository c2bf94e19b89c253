import Phrasebook.Proofs.Session.Runs

/-!
# Generated files are well bracketed

A generated file is its beginning, a list of items, and its end. An item is a function, or
a package: its opening, functions, and the closing of the same name. Packages are not nested
in this grammar, and none of them is left open.

Every run of a session writes such a file once it is finished, provided that the sink takes
everything. The steps may come in any order and any number, and steps that fail because of a
malformed line or of bytes that are no text take nothing away from this. The invariant
(`Bracketed`) says what has been written before the end: nothing at all, or the beginning,
whole items, and the part of a package that is open.

## Main results

* `Bracketed.step` / `Bracketed.of_run`: the invariant, event by event and after every run.
* `run_finish_bracketed`: every finished run writes a well-bracketed file, and its counters
  are the numbers of openings and functions in it.
-/

namespace Phrasebook

/-- What a generated file holds between its beginning and its end: functions, and packages
with functions in them. -/
inductive Item where
  | function (m : Message)
  | package (name : String) (messages : List Message)
  deriving DecidableEq, Repr

/-- The chunks of an item. -/
def Item.chunks : Item → List Chunk
  | .function m => [.function m]
  | .package name messages => .opening name :: (messages.map .function ++ [.closing name])

/-- The chunks of a whole file. -/
def fileChunks (items : List Item) : List Chunk :=
  .preamble :: (items.flatMap Item.chunks ++ [.postamble])

/-- The chunks are what has been written of the package that is open, if one is. -/
def IsUnclosed : Option String → List Chunk → Prop
  | none, chunks => chunks = []
  | some name, chunks => ∃ messages : List Message, chunks = .opening name :: messages.map .function

/-- A file that is being written to a sink that takes everything: nothing has been written, or
its beginning, whole items, and the part of a package that is open. -/
structure Bracketed (past : List Event) (v : Standing) : Prop where
  unlimited : v.admission = .unlimited
  shape : v.started = false ∧ v.scope = none ∧ storedChunks past = [] ∨
    v.started = true ∧ ∃ (items : List Item) (unclosed : List Chunk),
      storedChunks past = .preamble :: (items.flatMap Item.chunks ++ unclosed) ∧
        IsUnclosed v.scope unclosed

namespace Bracketed

/-- A stored chunk continues a bracketed file. Nothing but the beginning is permitted first, and a
closing makes a whole item of the package that was open. -/
theorem stored {past : List Event} {v : Standing} {c : Chunk} (h : Bracketed past v)
    (hp : v.PermitsChunk c) (he : c ≠ .postamble) :
    Bracketed (past ++ [.stored c]) (v.after (.stored c)) := by
  obtain ⟨hu, ⟨hstarted, hscope, hpast⟩ | ⟨hstarted, items, unclosed, hpast, hopen⟩⟩ := h
  · cases c with
    | preamble =>
        refine ⟨hu, .inr ⟨rfl, [], [], by simp [hpast], ?_⟩⟩
        simp only [Standing.after, hscope, IsUnclosed]
    | opening name => exact absurd (hstarted.symm.trans hp.1) (by simp)
    | closing name => exact absurd (hscope.symm.trans hp) (by simp)
    | function m => exact absurd (hstarted.symm.trans hp) (by simp)
    | postamble => exact absurd rfl he
  · cases c with
    | preamble => exact absurd (hstarted.symm.trans hp) (by simp)
    | opening name =>
        obtain ⟨-, hscope⟩ := hp
        rw [hscope, IsUnclosed] at hopen
        subst hopen
        refine ⟨hu, .inr ⟨hstarted, items, [.opening name], by simp [hpast], [], rfl⟩⟩
    | closing name =>
        have hscope : v.scope = some name := hp
        rw [hscope, IsUnclosed] at hopen
        obtain ⟨messages, rfl⟩ := hopen
        refine ⟨hu, .inr ⟨hstarted, items ++ [.package name messages], [], ?_, rfl⟩⟩
        simp [hpast, Item.chunks]
    | function m =>
        refine ⟨hu, .inr ⟨hstarted, ?_⟩⟩
        cases hscope : v.scope with
        | none =>
            rw [hscope, IsUnclosed] at hopen
            subst hopen
            refine ⟨items ++ [.function m], [], by simp [hpast, Item.chunks], ?_⟩
            simp only [Standing.after, hscope, IsUnclosed]
        | some name =>
            rw [hscope, IsUnclosed] at hopen
            obtain ⟨messages, rfl⟩ := hopen
            refine ⟨items, .opening name :: (messages ++ [m]).map .function, by simp [hpast], ?_⟩
            simp only [Standing.after, hscope, IsUnclosed]
            exact ⟨messages ++ [m], rfl⟩
    | postamble => exact absurd rfl he

/-- Every permitted event keeps a file bracketed. -/
theorem step {past : List Event} {v : Standing} {e : Event} (h : Bracketed past v)
    (hp : v.Permits e) : Bracketed (past ++ [e]) (v.after e) := by
  cases e with
  | stored c => exact h.stored hp.1 hp.2
  | refused c => exact absurd h.unlimited hp.2.2
  | notice n =>
      obtain ⟨hu, hshape⟩ := h
      exact ⟨hu, by simpa [Standing.after] using hshape⟩

/-- Every run writes a bracketed file. -/
theorem of_run (layout : Layout) (options : Options) (steps : List Step) :
    Bracketed ((Session.start layout options .unlimited).run steps).trace
      ((Session.start layout options .unlimited).run steps).session.standing :=
  Session.run_invariant (fun _ _ _ => step) ⟨rfl, .inl ⟨rfl, rfl, rfl⟩⟩ steps

/-- Where the end of the file is permitted, the file lacks nothing else. -/
theorem items {past : List Event} {v : Standing} (h : Bracketed past v)
    (hp : v.PermitsChunk .postamble) :
    ∃ items : List Item, storedChunks past = .preamble :: items.flatMap Item.chunks := by
  obtain ⟨hstarted, hscope⟩ := hp
  obtain ⟨-, ⟨hfresh, -, -⟩ | ⟨-, items, unclosed, hpast, hopen⟩⟩ := h
  · exact absurd (hfresh.symm.trans hstarted) (by simp)
  · rw [hscope, IsUnclosed] at hopen
    subst hopen
    exact ⟨items, by rw [hpast, List.append_nil]⟩

/-- Finishing a bracketed file succeeds and gives a whole file. -/
theorem finish {s : Session} {past : List Event} (h : Bracketed past s.standing) :
    s.finish.failure = none ∧
      ∃ items : List Item, storedChunks (past ++ s.finish.trace) = fileChunks items := by
  obtain ⟨-, hu⟩ | ⟨es, hes, hp, ⟨hend, hok⟩ | ⟨-, hu⟩⟩ := Session.finish_cases s
  · exact absurd h.unlimited hu
  · obtain ⟨items, hitems⟩ := (hes.invariant (fun _ _ _ => step) h).items hp
    refine ⟨hok, items, ?_⟩
    rw [hend, ← List.append_assoc, storedChunks_snoc_stored, hitems]
    rfl
  · exact absurd h.unlimited hu

end Bracketed

/-- The beginning stands once in a file. -/
theorem count_preamble_fileChunks (items : List Item) :
    (fileChunks items).count .preamble = 1 := by
  have hitems : Chunk.preamble ∉ items.flatMap Item.chunks := by
    rw [List.mem_flatMap]
    rintro ⟨item, -, hmem⟩
    cases item <;> simp [Item.chunks] at hmem
  rw [fileChunks, List.count_cons_self, List.count_append, List.count_eq_zero.mpr hitems]
  rfl

/-- **Generated files are well bracketed.** Take any steps of a session, in any order, on a sink
that takes everything, and finish the session. Finishing succeeds, and what was written is the
beginning, items, and the end: every opening has its closing, packages are not nested, and the
beginning stands first and nowhere else. The counters are the numbers of openings and of
functions that were written. -/
theorem run_finish_bracketed (layout : Layout) (options : Options) (steps : List Step) :
    let o := ((Session.start layout options .unlimited).run steps).regardless Session.finish
    o.failure = none ∧
      (∃ items : List Item, o.chunks = fileChunks items) ∧
      o.chunks.count .preamble = 1 ∧
      o.session.summary.namespaces = o.chunks.countP Chunk.isOpening ∧
      o.session.summary.functions = o.chunks.countP Chunk.isFunction := by
  intro o
  obtain ⟨hfailure, items, hitems⟩ := (Bracketed.of_run layout options steps).finish
  obtain ⟨hnamespaces, hfunctions⟩ := (Counted.of_run layout options .unlimited steps).of_finish
  have hchunks : o.chunks = fileChunks items := hitems
  refine ⟨hfailure, ⟨items, hchunks⟩, ?_, hnamespaces, hfunctions⟩
  rw [hchunks, count_preamble_fileChunks]

end Phrasebook
