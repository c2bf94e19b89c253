import Phrasebook.Proofs.Session.Unhindered

/-!
# The counters of lines

A session counts the lines that it reads and the lines that it skips. Only reading lines
touches these two counters; every other step leaves them as they are, however the sink
answers and wherever the step stops.

## Main results

* `openPackage_keepsLineCounts`, `emit_keepsLineCounts`, `finish_keepsLineCounts`: the steps
  that write leave the counters of lines as they are.
-/

namespace Phrasebook

/-- A step leaves the counters of lines as they were in a session. -/
structure Outcome.KeepsLineCounts (o : Outcome) (s : Session) : Prop where
  lines : o.session.summary.lines = s.summary.lines
  skipped : o.session.summary.skipped = s.summary.skipped

/-- Two steps that keep the counters of lines keep them together. -/
theorem Outcome.KeepsLineCounts.andThen {o : Outcome} {s : Session} {next : Session → Outcome}
    (h : o.KeepsLineCounts s) (hn : (next o.session).KeepsLineCounts o.session) :
    (o.andThen next).KeepsLineCounts s :=
  ⟨andThen_keeps (P := fun t => t.summary.lines = s.summary.lines) h.lines
      (hn.lines.trans h.lines),
    andThen_keeps (P := fun t => t.summary.skipped = s.summary.skipped) h.skipped
      (hn.skipped.trans h.skipped)⟩

namespace Session

/-- Writing a chunk changes the sink only. -/
theorem write_keepsLineCounts (s : Session) (chunk : Chunk) :
    (s.write chunk).KeepsLineCounts s := by
  obtain ⟨sink, -, hw | ⟨-, hw⟩⟩ := write_cases s chunk <;> rw [hw] <;> exact ⟨rfl, rfl⟩

/-- A notice counts no line. -/
theorem report_keepsLineCounts (s : Session) (n : Notice) : (s.report n).KeepsLineCounts s :=
  ⟨rfl, rfl⟩

/-- The beginning of the file is no line. -/
theorem begin_keepsLineCounts (s : Session) : s.begin.KeepsLineCounts s := by
  rw [begin]
  split
  · exact ⟨rfl, rfl⟩
  · obtain ⟨hlines, hskipped⟩ := write_keepsLineCounts { s with started := true } .preamble
    exact ⟨hlines, hskipped⟩

/-- Closing a package counts no line. -/
theorem closePackage_keepsLineCounts (s : Session) : s.closePackage.KeepsLineCounts s := by
  rw [closePackage.eq_def]
  split
  · exact ⟨rfl, rfl⟩
  · obtain ⟨hlines, hskipped⟩ := write_keepsLineCounts { s with scope := none } (.closing _)
    exact ⟨hlines, hskipped⟩

/-- Opening a package counts the package, but no line. -/
theorem openPackage_keepsLineCounts (s : Session) (name : String) :
    (s.openPackage name).KeepsLineCounts s := by
  refine (begin_keepsLineCounts s).andThen ?_
  refine (closePackage_keepsLineCounts _).andThen ?_
  refine (report_keepsLineCounts _ _).andThen ?_
  exact (write_keepsLineCounts _ _).andThen ⟨rfl, rfl⟩

/-- Examining a message counts no line. -/
theorem examine_keepsLineCounts (s : Session) (m : Message) :
    (s.examine m).KeepsLineCounts s := by
  rw [examine]
  split <;> exact ⟨rfl, rfl⟩

/-- Writing a function counts the function, but no line. -/
theorem emit_keepsLineCounts (s : Session) (m : Message) : (s.emit m).KeepsLineCounts s := by
  refine (begin_keepsLineCounts s).andThen ?_
  refine (examine_keepsLineCounts _ m).andThen ?_
  refine (report_keepsLineCounts _ _).andThen ?_
  exact (write_keepsLineCounts _ _).andThen ⟨rfl, rfl⟩

/-- Finishing the file counts no line. -/
theorem finish_keepsLineCounts (s : Session) : s.finish.KeepsLineCounts s := by
  refine (begin_keepsLineCounts s).andThen ?_
  exact (closePackage_keepsLineCounts _).andThen (write_keepsLineCounts _ _)

end Session

end Phrasebook
