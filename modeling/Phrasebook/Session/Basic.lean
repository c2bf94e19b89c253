import Phrasebook.Layout.Basic
import Phrasebook.Notice
import Phrasebook.Sink

/-!
# Sessions

A session writes one generated file. It knows how chunks are spelled and where they go, and
it keeps what has happened so far: whether the beginning of the file has been written,
which package is open, which messages have been defined, and the counters of the run.

A step of a session has an *outcome*: the session after it, the *trace* of what it did, and
the failure that ended it, if one did. The trace is the whole of what can be seen from the
outside, in order: every chunk that was stored, every chunk that was refused, and every
notice. What was written is read off the trace, and so are the logs.

## Convention

A step that fails keeps what it had done before. The session after a failed step is
therefore as good as any other, and further steps may follow it.
-/

namespace Phrasebook

/-- The state of a run that writes one generated file. -/
structure Session where
  layout : Layout
  options : Options
  sink : Sink
  /-- Whether the beginning of the file has been written, or at least tried. -/
  started : Bool := false
  /-- The package that is open. -/
  scope : Option String := none
  /-- The messages that have been examined, each with its scope, the last one first. -/
  defined : List (Option String × String) := []
  summary : Summary := {}

/-- Something that a session did. -/
inductive Event where
  /-- A chunk reached the sink. -/
  | stored (chunk : Chunk)
  /-- The sink refused a chunk. -/
  | refused (chunk : Chunk)
  /-- Something was reported. -/
  | notice (n : Notice)
  deriving DecidableEq, Repr

namespace Event

/-- The chunk that reached the sink, if one did. -/
def stored? : Event → Option Chunk
  | .stored chunk => some chunk
  | _ => none

/-- What was reported, if anything was. -/
def notice? : Event → Option Notice
  | .notice n => some n
  | _ => none

end Event

/-- What a step of a session led to. -/
structure Outcome where
  session : Session
  trace : List Event := []
  failure : Option Failure := none

namespace Outcome

/-- The outcome of a step that did nothing else than to change the session. -/
def done (s : Session) : Outcome :=
  { session := s }

/-- The outcome of a step that failed at once. -/
def fail (s : Session) (failure : Failure) : Outcome :=
  { session := s, failure := some failure }

/-- Goes on with another step unless the first one failed. -/
def andThen (o : Outcome) (next : Session → Outcome) : Outcome :=
  match o.failure with
  | some _ => o
  | none =>
    let rest := next o.session
    { rest with trace := o.trace ++ rest.trace }

/-- The chunks that reached the sink. -/
def chunks (o : Outcome) : List Chunk :=
  o.trace.filterMap Event.stored?

/-- The text that reached the sink. -/
def written (o : Outcome) : String :=
  String.join (o.chunks.map o.session.layout.text)

/-- What was reported. -/
def notices (o : Outcome) : List Notice :=
  o.trace.filterMap Event.notice?

/-- The summary of a run that succeeded, or its failure. -/
def result (o : Outcome) : Except Failure Summary :=
  match o.failure with
  | some failure => .error failure
  | none => .ok o.session.summary

/-- After a step that does nothing, the next one starts from the same session. -/
@[simp] theorem andThen_done (s : Session) (next : Session → Outcome) :
    (done s).andThen next = next s := by
  simp [andThen, done]

/-- After a failure, nothing is done. -/
@[simp] theorem andThen_fail (s : Session) (failure : Failure) (next : Session → Outcome) :
    (fail s failure).andThen next = fail s failure := by
  simp [andThen, fail]

/-- Steps are put together in any order of brackets. -/
theorem andThen_assoc (o : Outcome) (f g : Session → Outcome) :
    (o.andThen f).andThen g = o.andThen fun s => (f s).andThen g := by
  cases h : o.failure with
  | some failure => simp [andThen, h]
  | none =>
    cases hf : (f o.session).failure with
    | some failure => simp [andThen, h, hf]
    | none => simp [andThen, h, hf, List.append_assoc]

end Outcome

namespace Session

/-- The session before its first step. -/
def start (layout : Layout) (options : Options) (admission : Admission) : Session :=
  { layout, options, sink := { admission } }

/-- Reports something. -/
def report (s : Session) (notice : Notice) : Outcome :=
  { session := s, trace := [.notice notice] }

/-- Writes a chunk, and fails if the sink refuses it. -/
def write (s : Session) (chunk : Chunk) : Outcome :=
  let text := s.layout.text chunk
  let offered := { s with sink := s.sink.offer text }
  if s.sink.takes text then { session := offered, trace := [.stored chunk] }
  else
    { session := offered, trace := [.refused chunk], failure := some (.access .sinkFull) }

end Session

end Phrasebook
