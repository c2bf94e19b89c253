import Phrasebook.Proofs.Session.Lawful

/-!
# Sessions on a sink that takes everything

When nothing is refused, a step of a session fails only because of what it reads. What it
writes is then known in advance: each step *yields* certain chunks and leaves a certain
package open (`Outcome.Yields`). The steps are put together by `Outcome.Yields.andThen`.

## Main results

* `begin_yields`, `closePackage_yields`, `openPackage_yields`, `emit_yields`,
  `finish_yields`: what the steps of a session yield.
* `readLines_append`: reading lines is reading some of them and then the others.
* `readLines_congr`: lines are read by their entries.
-/

namespace Phrasebook

/-- A session that has begun its file and whose sink takes everything. -/
structure Session.Unhindered (s : Session) : Prop where
  started : s.started = true
  admission : s.sink.admission = .unlimited

/-- A step succeeds, stores these chunks, and leaves this package open. -/
structure Outcome.Yields (o : Outcome) (chunks : List Chunk) (scope : Option String) : Prop where
  failure : o.failure = none
  stored : o.chunks = chunks
  scope : o.session.scope = scope

/-- The closing of the package that is open, if one is. -/
def closings (scope : Option String) : List Chunk :=
  (scope.map Chunk.closing).toList

/-- The entry of the bytes of a line, if they are text. -/
def Entry.ofBytes? (raw : Bytes) : Option (Except Malformed Entry) :=
  (Utf8.decode? raw).map ofLine

namespace Outcome

/-- What holds of the session after each of two steps holds after both. -/
theorem andThen_keeps {P : Session → Prop} {o : Outcome} {next : Session → Outcome}
    (h : P o.session) (hn : P (next o.session).session) : P (o.andThen next).session := by
  rw [andThen]
  cases o.failure with
  | some failure => exact h
  | none => exact hn

/-- What follows a step matters only at the session that the step leaves. -/
theorem andThen_congr {o : Outcome} {f g : Session → Outcome} (h : f o.session = g o.session) :
    o.andThen f = o.andThen g := by
  rw [andThen, andThen, h]

/-- The failure of two steps, the first of which succeeds. -/
theorem failure_andThen {o : Outcome} {next : Session → Outcome} (h : o.failure = none) :
    (o.andThen next).failure = (next o.session).failure := by
  rw [andThen, h]

/-- The session after two steps, the first of which succeeds. -/
theorem session_andThen {o : Outcome} {next : Session → Outcome} (h : o.failure = none) :
    (o.andThen next).session = (next o.session).session := by
  rw [andThen, h]

/-- Nothing follows a step that failed. -/
theorem andThen_of_failure {o : Outcome} {failure : Failure} (next : Session → Outcome)
    (h : o.failure = some failure) : o.andThen next = o := by
  rw [andThen, h]

/-- The chunks of two steps, the first of which succeeds. -/
theorem chunks_andThen {o : Outcome} {next : Session → Outcome} (h : o.failure = none) :
    (o.andThen next).chunks = o.chunks ++ (next o.session).chunks := by
  rw [andThen, h]
  exact List.filterMap_append

/-- The notices of two steps, the first of which succeeds. -/
theorem notices_andThen {o : Outcome} {next : Session → Outcome} (h : o.failure = none) :
    (o.andThen next).notices = o.notices ++ (next o.session).notices := by
  rw [andThen, h]
  exact List.filterMap_append

/-- Two steps in turn succeed only if both do. -/
theorem succeeds_of_andThen {o : Outcome} {next : Session → Outcome}
    (h : (o.andThen next).failure = none) : o.failure = none ∧ (next o.session).failure = none := by
  cases ho : o.failure with
  | some failure =>
      rw [andThen_of_failure next ho, ho] at h
      exact absurd h (by simp)
  | none => exact ⟨rfl, failure_andThen ho ▸ h⟩

/-- Steps that succeed are put together. -/
theorem Yields.andThen {o : Outcome} {next : Session → Outcome} {cs ds : List Chunk}
    {scope scope' : Option String} (h : o.Yields cs scope)
    (hn : (next o.session).Yields ds scope') : (o.andThen next).Yields (cs ++ ds) scope' := by
  refine ⟨?_, ?_, ?_⟩
  · rw [failure_andThen h.failure, hn.failure]
  · rw [chunks_andThen h.failure, h.stored, hn.stored]
  · rw [session_andThen h.failure, hn.scope]

/-- Doing nothing succeeds and stores nothing. -/
theorem yields_done (s : Session) : (done s).Yields [] s.scope :=
  ⟨rfl, rfl, rfl⟩

end Outcome

namespace Session

/-- Reporting a notice succeeds and stores nothing. -/
theorem report_yields (s : Session) (n : Notice) : (s.report n).Yields [] s.scope :=
  ⟨rfl, rfl, rfl⟩

/-- A sink that takes everything stores what is written. -/
theorem write_yields {s : Session} (chunk : Chunk) (hu : s.sink.admission = .unlimited) :
    (s.write chunk).Yields [chunk] s.scope := by
  obtain ⟨sink, -, hw | ⟨hr, -⟩⟩ := write_cases s chunk
  · rw [hw]
    exact ⟨rfl, rfl, rfl⟩
  · exact absurd hu hr

/-- An unhindered session stays unhindered. -/
theorem Unhindered.of_lawful {s : Session} {o : Outcome} (h : s.Unhindered)
    (ho : o.LawfulFrom s) : o.session.Unhindered :=
  ⟨Lawful.started ho h.started, (Lawful.setting ho).2.2.trans h.admission⟩

/-- A session that has not begun its file writes the beginning. -/
theorem begin_yields_preamble {s : Session} (hs : s.started = false)
    (hu : s.sink.admission = .unlimited) : s.begin.Yields [.preamble] s.scope := by
  rw [begin, if_neg (by simp [hs])]
  exact write_yields (s := { s with started := true }) .preamble hu

/-- A session that has begun its file does not begin again. -/
theorem begin_yields {s : Session} (h : s.Unhindered) : s.begin.Yields [] s.scope := by
  rw [begin_of_started h.started]
  exact Outcome.yields_done s

/-- The package that is open is closed. -/
theorem closePackage_yields {s : Session} (h : s.Unhindered) :
    s.closePackage.Yields (closings s.scope) none := by
  rw [closePackage.eq_def]
  cases hs : s.scope with
  | none => exact ⟨rfl, rfl, hs⟩
  | some name => exact write_yields (s := { s with scope := none }) (.closing name) h.admission

/-- The package that is open is closed before another one is opened. -/
theorem openPackage_yields {s : Session} (name : String) (h : s.Unhindered) :
    (s.openPackage name).Yields (closings s.scope ++ [.opening name]) (some name) := by
  have hbegin := begin_yields h
  have hclose := closePackage_yields (h.of_lawful (begin_lawful s))
  rw [hbegin.scope] at hclose
  have h₂ := (h.of_lawful (begin_lawful s)).of_lawful (closePackage_lawful _)
  refine hbegin.andThen (hclose.andThen ((report_yields _ _).andThen ?_))
  exact (write_yields (.opening name) h₂.admission).andThen ⟨rfl, rfl, rfl⟩

/-- Examining a message writes nothing. -/
theorem examine_yields (s : Session) (m : Message) : (s.examine m).Yields [] s.scope := by
  rw [examine]
  split
  · refine ⟨rfl, ?_, rfl⟩
    rw [Outcome.chunks, List.filterMap_map]
    exact List.filterMap_eq_nil_iff.mpr fun _ _ => rfl
  · exact Outcome.yields_done s

/-- A message is written as its function, into the package that is open. -/
theorem emit_yields {s : Session} (m : Message) (h : s.Unhindered) :
    (s.emit m).Yields [.function m] s.scope := by
  have hbegin := begin_yields h
  have hexamine := examine_yields s.begin.session m
  rw [hbegin.scope] at hexamine
  have h₂ := (h.of_lawful (begin_lawful s)).of_lawful (examine_lawful _ m)
  have hwrite := write_yields (.function m) h₂.admission
  rw [hexamine.scope] at hwrite
  refine hbegin.andThen (hexamine.andThen ((report_yields _ _).andThen ?_))
  exact hwrite.andThen ⟨rfl, rfl, hwrite.scope⟩

/-- The package that is open is closed before the end of the file. -/
theorem finish_yields {s : Session} (h : s.Unhindered) :
    s.finish.Yields (closings s.scope ++ [.postamble]) none := by
  have hbegin := begin_yields h
  have hclose := closePackage_yields (h.of_lawful (begin_lawful s))
  rw [hbegin.scope] at hclose
  have h₂ := (h.of_lawful (begin_lawful s)).of_lawful (closePackage_lawful _)
  have hwrite := write_yields .postamble h₂.admission
  rw [hclose.scope] at hwrite
  exact hbegin.andThen (hclose.andThen hwrite)

/-- Finishing does not change how chunks are spelled. -/
theorem finish_layout (s : Session) : s.finish.session.layout = s.layout := by
  obtain ⟨hlawful, -⟩ | ⟨es, hlawful, -⟩ := finish_cases s
  · exact hlawful.setting.1
  · exact hlawful.setting.1

/-- A fresh session on a sink that takes everything is unhindered once it has begun. -/
theorem begin_unhindered {s : Session} (hu : s.sink.admission = .unlimited) :
    s.begin.session.Unhindered :=
  ⟨begin_started s, (begin_lawful s).setting.2.2.trans hu⟩

/-! ### Lines -/

/-- Skipping a line writes nothing. -/
theorem skip_yields (s : Session) (n : Notice) :
    ((s.report n).andThen fun s => .done s.countSkipped).Yields [] s.scope :=
  (report_yields s n).andThen ⟨rfl, rfl, rfl⟩

/-- Reading lines is reading some of them and then, unless that fails, the others. -/
theorem readLines_append (s : Session) (number : Nat) (first others : List Bytes) :
    s.readLines number (first ++ others) =
      (s.readLines number first).andThen fun s =>
        s.readLines (number + first.length) others := by
  induction first generalizing s number with
  | nil =>
      rw [readLines, Outcome.andThen_done]
      rfl
  | cons raw rest ih =>
      rw [List.cons_append, readLines, readLines]
      cases Utf8.decode? raw with
      | none => exact (Outcome.andThen_fail _ _ _).symm
      | some line =>
          dsimp only
          rw [Outcome.andThen_assoc]
          congr 1
          funext s
          rw [ih, List.length_cons, Nat.add_assoc, Nat.add_comm 1]

/-- Lines are read by their entries, and by which of them are text. -/
theorem readLines_congr {lines lines' : List Bytes}
    (h : lines.map Entry.ofBytes? = lines'.map Entry.ofBytes?) (s : Session) (number : Nat) :
    s.readLines number lines = s.readLines number lines' := by
  induction lines generalizing lines' s number with
  | nil =>
      obtain rfl : lines' = [] := List.map_eq_nil_iff.mp h.symm
      rfl
  | cons raw rest ih =>
      obtain ⟨raw', rest', rfl, hraw, hrest⟩ := List.map_eq_cons_iff.mp h.symm
      rw [readLines, readLines]
      rw [Entry.ofBytes?, Entry.ofBytes?] at hraw
      cases hline : Utf8.decode? raw with
      | none =>
          rw [hline, Option.map_none, Option.map_eq_none_iff] at hraw
          rw [hraw]
      | some line =>
          rw [hline, Option.map_some, Option.map_eq_some_iff] at hraw
          obtain ⟨line', hline', hentry⟩ := hraw
          rw [hline']
          simp only [readLine, hentry, ih hrest.symm]

end Session

end Phrasebook
