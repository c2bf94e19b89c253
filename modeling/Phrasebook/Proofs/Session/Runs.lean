import Phrasebook.Proofs.Session.Lawful

/-!
# Runs of a session

A session can be asked for its steps in any order and any number, and a step that fails does
not end the run: the next step finds the session as the failed one left it. A *run* is such
a sequence of steps. It leaves a lawful trace (`run_lawful`), so whatever lawful traces keep
holds after every step of every run. Finishing comes last, if at all.

This module also fixes how a trace is read: which chunks were tried, which of them were
stored, and which of these are the openings, closings and functions.

## Main results

* `run_lawful`: every run leaves a lawful trace.
* `run_invariant`: what every permitted event keeps holds after every run.
* `Counted.of_run`: after every run the counters agree with the chunks stored.
-/

namespace Phrasebook

/-- A step that can be asked of a session while it has not been finished. -/
inductive Step where
  | begin
  | openPackage (name : String)
  | closePackage
  | emit (m : Message)
  | readLine (number : Nat) (line : String)
  | readDefinitions (source : Except AccessError Bytes)

/-- Goes on with another step, whether or not the first one failed. -/
def Outcome.regardless (o : Outcome) (next : Session → Outcome) : Outcome :=
  let rest := next o.session
  { rest with trace := o.trace ++ rest.trace }

namespace Session

/-- Takes a step. -/
def perform (s : Session) : Step → Outcome
  | .begin => s.begin
  | .openPackage name => s.openPackage name
  | .closePackage => s.closePackage
  | .emit m => s.emit m
  | .readLine number line => s.readLine number line
  | .readDefinitions source => s.readDefinitions source

/-- Takes steps one after the other, also after one that fails. -/
def run (s : Session) : List Step → Outcome
  | [] => .done s
  | step :: rest => (s.perform step).regardless fun s => s.run rest

/-- The outcome of each step of a run, with that of finishing at the end if the run is finished. -/
def outcomes (s : Session) (finishing : Bool) : List Step → List Outcome
  | [] => if finishing then [s.finish] else []
  | step :: rest => s.perform step :: (s.perform step).session.outcomes finishing rest

/-- Every step leaves a lawful trace. -/
theorem perform_lawful (s : Session) (step : Step) : (s.perform step).LawfulFrom s := by
  cases step with
  | begin => exact begin_lawful s
  | openPackage name => exact openPackage_lawful s name
  | closePackage => exact closePackage_lawful s
  | emit m => exact emit_lawful s m
  | readLine number line => exact readLine_lawful s number line
  | readDefinitions source => exact readDefinitions_lawful s source

/-- **Every run leaves a lawful trace**, whatever its steps are and wherever they fail. -/
theorem run_lawful (s : Session) (steps : List Step) : (s.run steps).LawfulFrom s := by
  induction steps generalizing s with
  | nil => exact Outcome.lawfulFrom_done s
  | cons step rest ih => exact Lawful.append (perform_lawful s step) (ih _)

/-- What holds at first and is kept by every permitted event holds after every run. -/
theorem run_invariant {I : List Event → Standing → Prop}
    (step : ∀ past v e, I past v → v.Permits e → I (past ++ [e]) (v.after e)) {s : Session}
    (h : I [] s.standing) (steps : List Step) :
    I (s.run steps).trace (s.run steps).session.standing :=
  (run_lawful s steps).invariant step h

end Session

/-! ### Reading a trace -/

/-- The chunk that was tried, if one was. -/
def Event.tried? : Event → Option Chunk
  | .stored chunk | .refused chunk => some chunk
  | .notice _ => none

namespace Chunk

/-- Whether a chunk opens a package. -/
def isOpening : Chunk → Bool
  | .opening _ => true
  | _ => false

/-- Whether a chunk opens or closes a package. -/
def isBoundary : Chunk → Bool
  | .opening _ | .closing _ => true
  | _ => false

/-- Whether a chunk is a function. -/
def isFunction : Chunk → Bool
  | .function _ => true
  | _ => false

end Chunk

/-- The chunks that were stored along a trace. -/
def storedChunks (trace : List Event) : List Chunk :=
  trace.filterMap Event.stored?

/-- The chunks that were tried along a trace. -/
def triedChunks (trace : List Event) : List Chunk :=
  trace.filterMap Event.tried?

/-- What was stored in two parts of a trace. -/
theorem storedChunks_append (past es : List Event) :
    storedChunks (past ++ es) = storedChunks past ++ storedChunks es :=
  List.filterMap_append

/-- What was tried in two parts of a trace. -/
theorem triedChunks_append (past es : List Event) :
    triedChunks (past ++ es) = triedChunks past ++ triedChunks es :=
  List.filterMap_append

/-- A stored chunk comes after those that were stored before. -/
@[simp] theorem storedChunks_snoc_stored (past : List Event) (c : Chunk) :
    storedChunks (past ++ [.stored c]) = storedChunks past ++ [c] :=
  storedChunks_append _ _

/-- A refused chunk is not stored. -/
@[simp] theorem storedChunks_snoc_refused (past : List Event) (c : Chunk) :
    storedChunks (past ++ [.refused c]) = storedChunks past := by
  rw [storedChunks_append]
  exact List.append_nil _

/-- A notice stores nothing. -/
@[simp] theorem storedChunks_snoc_notice (past : List Event) (n : Notice) :
    storedChunks (past ++ [.notice n]) = storedChunks past := by
  rw [storedChunks_append]
  exact List.append_nil _

/-- Notices alone store nothing. -/
theorem storedChunks_notices (ns : List Notice) : storedChunks (ns.map .notice) = [] := by
  rw [storedChunks, List.filterMap_map]
  exact List.filterMap_eq_nil_iff.mpr fun _ _ => rfl

/-- A stored chunk was tried. -/
@[simp] theorem triedChunks_snoc_stored (past : List Event) (c : Chunk) :
    triedChunks (past ++ [.stored c]) = triedChunks past ++ [c] :=
  triedChunks_append _ _

/-- A refused chunk was tried as well. -/
@[simp] theorem triedChunks_snoc_refused (past : List Event) (c : Chunk) :
    triedChunks (past ++ [.refused c]) = triedChunks past ++ [c] :=
  triedChunks_append _ _

/-- A notice tries nothing. -/
@[simp] theorem triedChunks_snoc_notice (past : List Event) (n : Notice) :
    triedChunks (past ++ [.notice n]) = triedChunks past := by
  rw [triedChunks_append]
  exact List.append_nil _

/-- The text that chunks are spelled as, one after the other. -/
def Layout.spelling (layout : Layout) (chunks : List Chunk) : String :=
  String.join (chunks.map layout.text)

/-- Chunks are spelled one after the other. -/
theorem Layout.spelling_append (layout : Layout) (cs ds : List Chunk) :
    layout.spelling (cs ++ ds) = layout.spelling cs ++ layout.spelling ds := by
  rw [spelling, spelling, spelling, List.map_append, String.join_append]

/-! ### The counters -/

/-- The counters of a standing agree with the chunks that were stored. -/
structure Counted (past : List Event) (v : Standing) : Prop where
  namespaces : v.namespaces = (storedChunks past).countP Chunk.isOpening
  functions : v.functions = (storedChunks past).countP Chunk.isFunction

namespace Counted

/-- Every event keeps the counters in agreement. -/
theorem step {past : List Event} {v : Standing} {e : Event} (h : Counted past v) :
    Counted (past ++ [e]) (v.after e) := by
  obtain ⟨hn, hf⟩ := h
  cases e with
  | stored c =>
      cases c <;> constructor <;>
        simp [Standing.after, hn, hf, Chunk.isOpening, Chunk.isFunction, List.countP_append]
  | refused c => cases c <;> constructor <;> simpa [Standing.after]
  | notice n => constructor <;> simpa [Standing.after]

/-- After every run the counters agree with the chunks that were stored. -/
theorem of_run (layout : Layout) (options : Options) (admission : Admission)
    (steps : List Step) :
    Counted ((Session.start layout options admission).run steps).trace
      ((Session.start layout options admission).run steps).session.standing :=
  Session.run_invariant (fun _ _ _ hc _ => hc.step) ⟨rfl, rfl⟩ steps

/-- Finishing keeps the counters in agreement. -/
theorem of_finish {s : Session} {past : List Event} (h : Counted past s.standing) :
    Counted (past ++ s.finish.trace) s.finish.session.standing := by
  refine Session.finish_invariant (fun _ _ _ hc _ => hc.step) ?_ h
  rintro past v e hc - (rfl | rfl) <;> exact hc.step

end Counted

end Phrasebook
