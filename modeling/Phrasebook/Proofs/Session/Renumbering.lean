import Phrasebook.Proofs.Session.Coupling

/-!
# Runs under other line numbers

The number of a line only serves reports, and the counters of lines serve nothing at all: no
step of a session looks at them. So a run that starts from other counters, and reads its lines
under other numbers, does what the first one does. Its session stays the same but for the two
counters (`Session.recount`), and its trace is that of the first run with the numbers changed.

A change of numbers may also drop a number. A notice about a line without a new number is left
out, so a run that passes over some of the lines can be compared with one that does not.

## Main results

* `Outcome.Renumbers.andThen`, `Outcome.Renumbers.andThen_passed`: two runs that differ in numbers
  and counters go on so, with a step of both or of the first one only.
* `write_recount`, `closePackage_recount`: other counters stay as they are.
* `openPackage_renumbers`, `emit_renumbers`, `readLine_renumbers`: what a session does does not
  depend on numbers and counters.
-/

namespace Phrasebook

/-- A notice with another line number, or none if its line has no new number. -/
def Notice.renumber? (f : Nat → Option Nat) : Notice → Option Notice
  | .lineIgnored line tokens => (f line).map (.lineIgnored · tokens)
  | .lineSkipped line error => (f line).map (.lineSkipped · error)
  | n => some n

/-- An event with another line number, or none if it is a notice that is left out. -/
def Event.renumber? (f : Nat → Option Nat) : Event → Option Event
  | .notice n => (n.renumber? f).map .notice
  | e => some e

/-- A failure with another line number. -/
def Failure.renumber (f : Nat → Option Nat) : Failure → Failure
  | .malformed line error => .malformed ((f line).getD line) error
  | failure => failure

/-- The session with other counters of lines. -/
def Session.recount (s : Session) (lines skipped : Nat) : Session :=
  { s with summary := { s.summary with lines := lines, skipped := skipped } }

/-- The second run is the first one with other line numbers and other counters of lines. -/
structure Outcome.Renumbers (f : Nat → Option Nat) (o p : Outcome) : Prop where
  session : ∃ lines skipped, p.session = o.session.recount lines skipped
  trace : p.trace = o.trace.filterMap (Event.renumber? f)
  failure : p.failure = o.failure.map (Failure.renumber f)

/-! ### Reading a trace after its numbers have changed -/

/-- The chunks stay. -/
theorem filterMap_stored_renumber (f : Nat → Option Nat) (es : List Event) :
    (es.filterMap (Event.renumber? f)).filterMap Event.stored? = es.filterMap Event.stored? := by
  rw [List.filterMap_filterMap]
  congr 1
  funext e
  cases e with
  | stored chunk => rfl
  | refused chunk => rfl
  | notice n => cases hn : n.renumber? f <;> simp [Event.renumber?, Event.stored?, hn]

/-- The notices are renumbered one by one. -/
theorem filterMap_notice_renumber (f : Nat → Option Nat) (es : List Event) :
    (es.filterMap (Event.renumber? f)).filterMap Event.notice? =
      (es.filterMap Event.notice?).filterMap (Notice.renumber? f) := by
  rw [List.filterMap_filterMap, List.filterMap_filterMap]
  congr 1
  funext e
  cases e with
  | stored chunk => rfl
  | refused chunk => rfl
  | notice n => cases hn : n.renumber? f <;> simp [Event.renumber?, Event.notice?, hn]

/-- Likely mistakes are reported without a line number. -/
theorem filterMap_renumber_lints (f : Nat → Option Nat) {ns : List Notice}
    (h : ∀ n ∈ ns, n.isLint = true) :
    (ns.map Event.notice).filterMap (Event.renumber? f) = ns.map .notice := by
  induction ns with
  | nil => rfl
  | cons n rest ih =>
      have hn : n.renumber? f = some n := by
        have hlint : n.isLint = true := h n List.mem_cons_self
        cases n <;> simp_all [Notice.isLint, Notice.renumber?]
      have hrest := ih fun n' hn' => h n' (List.mem_cons_of_mem n hn')
      simp [Event.renumber?, hn, hrest]

namespace Outcome.Renumbers

variable {f : Nat → Option Nat} {o p : Outcome}

/-- The two runs store the same chunks. -/
theorem chunks (h : o.Renumbers f p) : p.chunks = o.chunks := by
  rw [Outcome.chunks, h.trace, filterMap_stored_renumber, Outcome.chunks]

/-- The two runs write the same text. -/
theorem written (h : o.Renumbers f p) : p.written = o.written := by
  obtain ⟨lines, skipped, hsession⟩ := h.session
  rw [Outcome.written, Outcome.written, h.chunks, hsession]
  rfl

/-- The notices of the second run are those of the first one that have a new number. -/
theorem notices (h : o.Renumbers f p) : p.notices = o.notices.filterMap (Notice.renumber? f) := by
  rw [Outcome.notices, h.trace, filterMap_notice_renumber, Outcome.notices]

/-! ### Putting steps together -/

/-- The two runs go on together if their next steps do. -/
theorem andThen {next next' : Session → Outcome} (h : o.Renumbers f p)
    (hn : ∀ lines skipped, (next o.session).Renumbers f (next' (o.session.recount lines skipped))) :
    (o.andThen next).Renumbers f (p.andThen next') := by
  obtain ⟨lines, skipped, hsession⟩ := h.session
  cases ho : o.failure with
  | some failure =>
      have hp : p.failure = some (failure.renumber f) := by
        rw [h.failure, ho]
        rfl
      rwa [andThen_of_failure next ho, andThen_of_failure next' hp]
  | none =>
      have hp : p.failure = none := by
        rw [h.failure, ho]
        rfl
      obtain ⟨hsession', htrace', hfailure'⟩ := hn lines skipped
      rw [Outcome.andThen, Outcome.andThen, ho, hp, hsession]
      refine ⟨hsession', ?_, hfailure'⟩
      dsimp only
      rw [h.trace, htrace', List.filterMap_append]

/-- The second run may pass over a step of the first one. -/
theorem andThen_passed {next : Session → Outcome} {t : Session} (next' : Session → Outcome)
    (h : o.Renumbers f (.done t))
    (hn : ∀ lines skipped, (next o.session).Renumbers f (next' (o.session.recount lines skipped))) :
    (o.andThen next).Renumbers f (next' t) := by
  have hpassed := h.andThen hn
  rwa [andThen_done] at hpassed

end Outcome.Renumbers

namespace Session

variable (f : Nat → Option Nat) (s : Session) (lines skipped : Nat)

/-- Doing nothing does not depend on numbers and counters. -/
theorem done_renumbers : (Outcome.done s).Renumbers f (.done (s.recount lines skipped)) :=
  ⟨⟨lines, skipped, rfl⟩, rfl, rfl⟩

/-- A notice that has a new number is reported under it. -/
theorem report_renumbers {f : Nat → Option Nat} {n n' : Notice} (hn : n.renumber? f = some n') :
    (s.report n).Renumbers f ((s.recount lines skipped).report n') := by
  refine ⟨⟨lines, skipped, rfl⟩, ?_, rfl⟩
  simp [report, Event.renumber?, hn]

/-- Writing does not look at the counters of lines. -/
theorem write_recount (chunk : Chunk) :
    (s.recount lines skipped).write chunk =
      { s.write chunk with session := (s.write chunk).session.recount lines skipped } := by
  by_cases h : s.sink.takes (s.layout.text chunk) = true
  · have h' : (s.recount lines skipped).sink.takes ((s.recount lines skipped).layout.text chunk) =
        true := h
    rw [write_of_takes h, write_of_takes h']
    rfl
  · have h' : ¬ (s.recount lines skipped).sink.takes
        ((s.recount lines skipped).layout.text chunk) = true := h
    rw [write_of_not_takes h, write_of_not_takes h']
    rfl

/-- Closing a package does not look at the counters of lines. -/
theorem closePackage_recount :
    (s.recount lines skipped).closePackage =
      { s.closePackage with session := s.closePackage.session.recount lines skipped } := by
  have hscope : (s.recount lines skipped).scope = s.scope := rfl
  rw [closePackage.eq_def, closePackage.eq_def, hscope]
  cases s.scope with
  | none => rfl
  | some name => exact write_recount { s with scope := none } lines skipped (.closing name)

/-- Writing a chunk does not depend on numbers and counters. -/
theorem write_renumbers (chunk : Chunk) :
    (s.write chunk).Renumbers f ((s.recount lines skipped).write chunk) := by
  rw [write_recount]
  obtain ⟨sink, -, hw | ⟨-, hw⟩⟩ := write_cases s chunk
  · rw [hw]
    exact ⟨⟨lines, skipped, rfl⟩, rfl, rfl⟩
  · rw [hw]
    exact ⟨⟨lines, skipped, rfl⟩, rfl, rfl⟩

/-- Beginning the file does not depend on numbers and counters. -/
theorem begin_renumbers : s.begin.Renumbers f (s.recount lines skipped).begin := by
  by_cases h : s.started = true
  · have h' : (s.recount lines skipped).started = true := h
    rw [begin, begin, if_pos h, if_pos h']
    exact done_renumbers f s lines skipped
  · have h' : ¬ (s.recount lines skipped).started = true := h
    rw [begin, begin, if_neg h, if_neg h']
    exact write_renumbers f { s with started := true } lines skipped .preamble

/-- Closing a package does not depend on numbers and counters. -/
theorem closePackage_renumbers :
    s.closePackage.Renumbers f (s.recount lines skipped).closePackage := by
  have hscope : (s.recount lines skipped).scope = s.scope := rfl
  rw [closePackage.eq_def, closePackage.eq_def, hscope]
  cases s.scope with
  | none => exact done_renumbers f s lines skipped
  | some name => exact write_renumbers f { s with scope := none } lines skipped (.closing name)

/-- Opening a package does not depend on numbers and counters. -/
theorem openPackage_renumbers (name : String) :
    (s.openPackage name).Renumbers f ((s.recount lines skipped).openPackage name) := by
  refine (begin_renumbers f s lines skipped).andThen fun lines skipped => ?_
  refine (closePackage_renumbers f _ lines skipped).andThen fun lines skipped => ?_
  refine (report_renumbers _ lines skipped rfl).andThen fun lines skipped => ?_
  refine (write_renumbers f _ lines skipped (.opening name)).andThen fun lines skipped => ?_
  exact done_renumbers f (enter _ name) lines skipped

/-- Examining a message does not depend on numbers and counters. -/
theorem examine_renumbers (m : Message) :
    (s.examine m).Renumbers f ((s.recount lines skipped).examine m) := by
  have hoptions : (s.recount lines skipped).options = s.options := rfl
  have hfindings : (s.recount lines skipped).findings m = s.findings m := rfl
  rw [examine, examine, hoptions, hfindings]
  split
  · exact ⟨⟨lines, skipped, rfl⟩, (filterMap_renumber_lints f (findings_isLint s m)).symm, rfl⟩
  · exact done_renumbers f s lines skipped

/-- Defining a message does not depend on numbers and counters. -/
theorem emit_renumbers (m : Message) :
    (s.emit m).Renumbers f ((s.recount lines skipped).emit m) := by
  refine (begin_renumbers f s lines skipped).andThen fun lines skipped => ?_
  refine (examine_renumbers f _ lines skipped m).andThen fun lines skipped => ?_
  refine (report_renumbers _ lines skipped rfl).andThen fun lines skipped => ?_
  refine (write_renumbers f _ lines skipped (.function m)).andThen fun lines skipped => ?_
  exact done_renumbers f (countFunction _) lines skipped

/-- Skipping a line does not depend on numbers and counters, except for the number in its
notice. -/
theorem skip_renumbers {f : Nat → Option Nat} {n n' : Notice} (hn : n.renumber? f = some n') :
    ((s.report n).andThen fun s => .done s.countSkipped).Renumbers f
      (((s.recount lines skipped).report n').andThen fun s => .done s.countSkipped) :=
  (report_renumbers s lines skipped hn).andThen fun lines skipped =>
    done_renumbers f s.countSkipped lines (skipped + 1)

/-- **Reading a line does not depend on numbers and counters**, except for the number that is
reported if the line is skipped or ends the reading. -/
theorem readLine_renumbers {f : Nat → Option Nat} {number number' : Nat}
    (h : f number = some number') (line : String) :
    (s.readLine number line).Renumbers f ((s.recount lines skipped).readLine number' line) := by
  have hcounted : (s.recount lines skipped).countLine = s.countLine.recount (lines + 1) skipped :=
    rfl
  rw [readLine, readLine, hcounted]
  cases Entry.ofLine line with
  | error error =>
      have hoptions : (s.countLine.recount (lines + 1) skipped).options = s.countLine.options := rfl
      dsimp only
      rw [reject, reject, hoptions]
      split
      · refine ⟨⟨lines + 1, skipped, rfl⟩, rfl, ?_⟩
        simp [Outcome.fail, Failure.renumber, h]
      · exact skip_renumbers _ _ _ (by simp [Notice.renumber?, h])
  | ok entry =>
      cases entry with
      | nothing => exact done_renumbers f _ _ _
      | package name => exact openPackage_renumbers f _ _ _ name
      | message m => exact emit_renumbers f _ _ _ m
      | ignored tokens => exact skip_renumbers _ _ _ (by simp [Notice.renumber?, h])

end Session

end Phrasebook
