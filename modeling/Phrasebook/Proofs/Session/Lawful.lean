import Phrasebook.Session.Steps

/-!
# Lawful traces

The trace of a session accounts for its state. The `Standing` of a session is what the
trace determines: whether the beginning of the file has been tried, which package is open,
and how many packages and functions have been counted, together with the setting of the
session, which never changes. Each event moves the standing on (`Standing.after`), and a
standing permits only some events (`Standing.Permits`): the beginning once, an opening only
while no package is open, a closing only of the package that is open, a function only after
the beginning. A trace is *lawful* when every event in it is permitted where it stands.

Every step of a session leaves a lawful trace that leads from its standing before to its
standing after, however the sink answers and wherever the step stops. This is proved once
for each step; what holds along every run is then read off lawful traces alone
(`Lawful.invariant`), without another look at the steps.

The end of the file is no event of a lawful trace. Only `finish` tries it, after the last
lawful event and where it is permitted (`finish_cases`).

## Main results

* `Lawful.invariant`: what holds at first and is kept by every permitted event holds after
  every lawful trace.
* `begin_lawful`, `closePackage_lawful`, `openPackage_lawful`, `emit_lawful`,
  `readLine_lawful`, `readDefinitions_lawful`: the steps of a session leave lawful traces.
-/

namespace Phrasebook

/-- What the trace of a session accounts for, and the setting that never changes. -/
structure Standing where
  layout : Layout
  options : Options
  admission : Admission
  started : Bool
  scope : Option String
  namespaces : Nat
  functions : Nat

namespace Standing

/-- The standing after an event. A refused opening or function changes nothing; the
beginning and a closing count whether or not they are refused. -/
def after (v : Standing) : Event → Standing
  | .stored .preamble | .refused .preamble => { v with started := true }
  | .stored (.closing _) | .refused (.closing _) => { v with scope := none }
  | .stored (.opening name) => { v with scope := some name, namespaces := v.namespaces + 1 }
  | .stored (.function _) => { v with functions := v.functions + 1 }
  | _ => v

/-- Whether a chunk may be tried. -/
def PermitsChunk (v : Standing) : Chunk → Prop
  | .preamble => v.started = false
  | .opening _ => v.started = true ∧ v.scope = none
  | .closing name => v.scope = some name
  | .function _ => v.started = true
  | .postamble => v.started = true ∧ v.scope = none

/-- Whether an event may happen before the session is finished. Nothing is refused by a sink
that takes everything. -/
def Permits (v : Standing) : Event → Prop
  | .stored chunk => v.PermitsChunk chunk ∧ chunk ≠ .postamble
  | .refused chunk => v.PermitsChunk chunk ∧ chunk ≠ .postamble ∧ v.admission ≠ .unlimited
  | .notice _ => True

end Standing

/-- `Lawful v trace w`: from the standing `v`, every event of the trace is permitted where it
stands, and the trace leads to the standing `w`. -/
inductive Lawful : Standing → List Event → Standing → Prop
  | nil (v : Standing) : Lawful v [] v
  | cons {v w : Standing} {e : Event} {es : List Event} :
      v.Permits e → Lawful (v.after e) es w → Lawful v (e :: es) w

namespace Lawful

/-- One permitted event is a lawful trace. -/
theorem single {v : Standing} {e : Event} (h : v.Permits e) : Lawful v [e] (v.after e) :=
  cons h (nil _)

/-- Lawful traces that meet can be joined. -/
theorem append {u v w : Standing} {es fs : List Event} (h₁ : Lawful u es v)
    (h₂ : Lawful v fs w) : Lawful u (es ++ fs) w := by
  induction h₁ with
  | nil _ => exact h₂
  | cons hp _ ih => exact cons hp (ih h₂)

/-- Notices change nothing. -/
theorem notices (v : Standing) (ns : List Notice) : Lawful v (ns.map .notice) v := by
  induction ns with
  | nil => exact nil v
  | cons n ns ih => exact cons trivial ih

/-- **Invariants of lawful traces.** What holds of the past and the standing at first, and is
kept by every permitted event, holds after every lawful trace. -/
theorem invariant {I : List Event → Standing → Prop}
    (step : ∀ past v e, I past v → v.Permits e → I (past ++ [e]) (v.after e))
    {v w : Standing} {past es : List Event} (h : Lawful v es w) (hv : I past v) :
    I (past ++ es) w := by
  induction h generalizing past with
  | nil v => rwa [List.append_nil]
  | @cons v w e es hp _ ih =>
      have := ih (step past v e hv hp)
      rwa [List.append_assoc, List.singleton_append] at this

/-- The setting never changes. -/
theorem setting {v w : Standing} {es : List Event} (h : Lawful v es w) :
    w.layout = v.layout ∧ w.options = v.options ∧ w.admission = v.admission := by
  induction h with
  | nil v => exact ⟨rfl, rfl, rfl⟩
  | @cons v w e es _ _ ih =>
      obtain ⟨hl, ho, ha⟩ := ih
      rw [hl, ho, ha, Standing.after.eq_def]
      split <;> exact ⟨rfl, rfl, rfl⟩

/-- The beginning stays tried. -/
theorem started {v w : Standing} {es : List Event} (h : Lawful v es w) (hv : v.started = true) :
    w.started = true := by
  induction h with
  | nil v => exact hv
  | @cons v w e es _ _ ih =>
      refine ih ?_
      rw [Standing.after.eq_def]
      split <;> first | rfl | exact hv

end Lawful

namespace Session

/-- The standing of a session. -/
def standing (s : Session) : Standing :=
  { layout := s.layout
    options := s.options
    admission := s.sink.admission
    started := s.started
    scope := s.scope
    namespaces := s.summary.namespaces
    functions := s.summary.functions }

end Session

/-- The outcome of a step leaves a lawful trace from the standing of a session to the
standing after the step. -/
def Outcome.LawfulFrom (o : Outcome) (s : Session) : Prop :=
  Lawful s.standing o.trace o.session.standing

namespace Outcome

/-- A step that does nothing leaves a lawful trace. -/
theorem lawfulFrom_done (s : Session) : (done s).LawfulFrom s :=
  Lawful.nil _

/-- A step that fails at once leaves a lawful trace. -/
theorem lawfulFrom_fail (s : Session) (failure : Failure) : (fail s failure).LawfulFrom s :=
  Lawful.nil _

/-- Lawful steps can be put together. -/
theorem lawfulFrom_andThen {o : Outcome} {s : Session} {next : Session → Outcome}
    (h : o.LawfulFrom s) (hn : (next o.session).LawfulFrom o.session) :
    (o.andThen next).LawfulFrom s := by
  rw [andThen]
  split
  · exact h
  · exact Lawful.append h hn

end Outcome

namespace Session

/-! ### Writing and reporting -/

/-- Offering a text to a sink does not change its rule. -/
theorem offer_admission (sink : Sink) (text : String) :
    (sink.offer text).admission = sink.admission := by
  rw [Sink.offer]
  split
  · rfl
  · split <;> rfl

/-- What a sink has stored does not show in the standing. -/
theorem standing_sink {s : Session} {sink : Sink} (h : sink.admission = s.sink.admission) :
    ({ s with sink := sink } : Session).standing = s.standing := by
  simp [standing, h]

/-- What writing a chunk can lead to: the sink takes it, or it refuses it and the step fails.
Either way nothing but the sink changes. -/
theorem write_cases (s : Session) (chunk : Chunk) :
    ∃ sink : Sink, sink.admission = s.sink.admission ∧
      (s.write chunk = { session := { s with sink := sink }, trace := [.stored chunk] } ∨
        s.sink.admission ≠ .unlimited ∧
        s.write chunk =
          { session := { s with sink := sink }
            trace := [.refused chunk]
            failure := some (.access .sinkFull) }) := by
  refine ⟨s.sink.offer (s.layout.text chunk), offer_admission _ _, ?_⟩
  by_cases h : s.sink.takes (s.layout.text chunk) = true
  · exact .inl (by simp only [write, h, if_true])
  · refine .inr ⟨?_, by simp only [write, h]; rfl⟩
    intro hu
    exact h (by simp [Sink.takes, hu, Admission.unlimited])

/-- Writing a chunk does not begin the file. -/
@[simp] theorem write_started (s : Session) (chunk : Chunk) :
    (s.write chunk).session.started = s.started := by
  obtain ⟨sink, -, hw | ⟨-, hw⟩⟩ := write_cases s chunk <;> rw [hw]

/-- Writing a chunk leaves the open package. -/
@[simp] theorem write_scope (s : Session) (chunk : Chunk) :
    (s.write chunk).session.scope = s.scope := by
  obtain ⟨sink, -, hw | ⟨-, hw⟩⟩ := write_cases s chunk <;> rw [hw]

/-- Reporting something leaves a lawful trace. -/
theorem report_lawful (s : Session) (n : Notice) : (s.report n).LawfulFrom s :=
  Lawful.notices s.standing [n]

/-- A permitted chunk leaves a lawful trace if the session that writes it has already moved on
as the chunk asks for, be it taken or refused. -/
theorem write_lawful {s t : Session} {chunk : Chunk} (hp : s.standing.PermitsChunk chunk)
    (he : chunk ≠ .postamble)
    (hstored : t.standing = s.standing.after (.stored chunk))
    (hrefused : t.standing = s.standing.after (.refused chunk)) :
    (t.write chunk).LawfulFrom s := by
  have ha : t.sink.admission = s.standing.admission := by
    have h := (Lawful.single (v := s.standing) (e := .stored chunk) ⟨hp, he⟩).setting.2.2
    rwa [← hstored] at h
  obtain ⟨sink, hsink, hw | ⟨hu, hw⟩⟩ := write_cases t chunk
  · rw [hw, Outcome.LawfulFrom, standing_sink hsink, hstored]
    exact Lawful.single ⟨hp, he⟩
  · rw [hw, Outcome.LawfulFrom, standing_sink hsink, hrefused]
    exact Lawful.single ⟨hp, he, ha ▸ hu⟩

/-- A permitted chunk leaves a lawful trace if the session moves on as the chunk asks for once
it has been taken, and a refused one asks for nothing. -/
theorem write_andThen_lawful {s : Session} {chunk : Chunk} {move : Session → Session}
    (hp : s.standing.PermitsChunk chunk) (he : chunk ≠ .postamble)
    (hstored : ∀ t : Session, t.standing = s.standing →
      (move t).standing = s.standing.after (.stored chunk))
    (hrefused : s.standing.after (.refused chunk) = s.standing) :
    ((s.write chunk).andThen fun t => .done (move t)).LawfulFrom s := by
  obtain ⟨sink, hsink, hw | ⟨hu, hw⟩⟩ := write_cases s chunk
  · have h := Lawful.single (v := s.standing) (e := .stored chunk) ⟨hp, he⟩
    rw [← hstored _ (standing_sink hsink)] at h
    rw [hw]
    exact h
  · have h := Lawful.single (v := s.standing) (e := .refused chunk) ⟨hp, he, hu⟩
    rw [hrefused] at h
    rw [hw]
    change Lawful s.standing [.refused chunk] ({ s with sink := sink } : Session).standing
    rw [standing_sink hsink]
    exact h

/-! ### The beginning, packages and functions -/

/-- The beginning is tried only by a session that has not tried it. -/
theorem begin_lawful (s : Session) : s.begin.LawfulFrom s := by
  rw [begin]
  by_cases hs : s.started = true
  · rw [if_pos hs]
    exact Outcome.lawfulFrom_done s
  · rw [if_neg hs]
    exact write_lawful (Bool.eq_false_iff.mpr hs) nofun rfl rfl

/-- After `begin`, the beginning has been tried. -/
theorem begin_started (s : Session) : s.begin.session.started = true := by
  rw [begin]
  by_cases hs : s.started = true
  · rw [if_pos hs]
    exact hs
  · rw [if_neg hs, write_started]

/-- A session that has begun its file does nothing to begin it. -/
theorem begin_of_started {s : Session} (h : s.started = true) : s.begin = .done s :=
  if_pos h

/-- The beginning of the file leaves the package that is open. -/
theorem begin_scope (s : Session) : s.begin.session.scope = s.scope := by
  rw [begin]
  split
  · rfl
  · exact write_scope _ _

/-- Only the package that is open is closed. -/
theorem closePackage_lawful (s : Session) : s.closePackage.LawfulFrom s := by
  rw [closePackage.eq_def]
  cases hs : s.scope with
  | none => exact Outcome.lawfulFrom_done s
  | some name => exact write_lawful hs nofun rfl rfl

/-- After `closePackage`, no package is open. -/
theorem closePackage_scope (s : Session) : s.closePackage.session.scope = none := by
  rw [closePackage.eq_def]
  cases hs : s.scope with
  | none => exact hs
  | some name => exact write_scope _ _

/-- Closing a package leaves the beginning as it is. -/
theorem closePackage_started (s : Session) : s.closePackage.session.started = s.started := by
  rw [closePackage.eq_def]
  cases hs : s.scope with
  | none => rfl
  | some name => exact write_started _ _

/-- Entering a package moves the standing on as a stored opening does. -/
theorem enter_standing (s : Session) (name : String) :
    (s.enter name).standing = s.standing.after (.stored (.opening name)) :=
  rfl

/-- A package is opened after the beginning, and after the one before it has been closed. -/
theorem openPackage_lawful (s : Session) (name : String) : (s.openPackage name).LawfulFrom s := by
  refine Outcome.lawfulFrom_andThen (begin_lawful s) ?_
  have hstarted := begin_started s
  generalize s.begin.session = s at hstarted ⊢
  refine Outcome.lawfulFrom_andThen (closePackage_lawful s) ?_
  have hscope := closePackage_scope s
  rw [← closePackage_started] at hstarted
  generalize s.closePackage.session = s at hstarted hscope ⊢
  refine Outcome.lawfulFrom_andThen (report_lawful s _) ?_
  refine write_andThen_lawful ⟨hstarted, hscope⟩ nofun ?_ rfl
  intro t ht
  rw [enter_standing, ht]

/-- Examining a message leaves a lawful trace. -/
theorem examine_lawful (s : Session) (m : Message) : (s.examine m).LawfulFrom s := by
  rw [examine]
  split
  · exact Lawful.notices s.standing _
  · exact Outcome.lawfulFrom_done s

/-- Examining a message does not begin the file. -/
theorem examine_started (s : Session) (m : Message) :
    (s.examine m).session.started = s.started := by
  rw [examine]
  split <;> rfl

/-- Counting a function moves the standing on as a stored function does. -/
theorem countFunction_standing (s : Session) (m : Message) :
    s.countFunction.standing = s.standing.after (.stored (.function m)) :=
  rfl

/-- A function is written after the beginning. -/
theorem emit_lawful (s : Session) (m : Message) : (s.emit m).LawfulFrom s := by
  refine Outcome.lawfulFrom_andThen (begin_lawful s) ?_
  have hstarted := begin_started s
  generalize s.begin.session = s at hstarted ⊢
  refine Outcome.lawfulFrom_andThen (examine_lawful s m) ?_
  rw [← examine_started s m] at hstarted
  generalize (s.examine m).session = s at hstarted ⊢
  refine Outcome.lawfulFrom_andThen (report_lawful s _) ?_
  refine write_andThen_lawful hstarted nofun ?_ rfl
  intro t ht
  rw [countFunction_standing t m, ht]

/-! ### Lines and files -/

/-- Reporting something and then counting a skipped line leaves a lawful trace. -/
theorem skip_lawful (s : Session) (n : Notice) :
    ((s.report n).andThen fun s => .done s.countSkipped).LawfulFrom s :=
  Outcome.lawfulFrom_andThen (report_lawful s n) (Lawful.nil _)

/-- A malformed line leaves a lawful trace. -/
theorem reject_lawful (s : Session) (number : Nat) (error : Malformed) :
    (s.reject number error).LawfulFrom s := by
  rw [reject]
  split
  · exact Outcome.lawfulFrom_fail s _
  · exact skip_lawful s _

/-- What the entry of a line asks for leaves a lawful trace. -/
theorem enact_lawful (s : Session) (number : Nat) (entry : Entry) :
    (s.enact number entry).LawfulFrom s := by
  cases entry with
  | nothing => exact Outcome.lawfulFrom_done s
  | package name => exact openPackage_lawful s name
  | message m => exact emit_lawful s m
  | ignored tokens => exact skip_lawful s _

/-- Reading a line leaves a lawful trace. Counting the line does not show in the standing. -/
theorem readLine_lawful (s : Session) (number : Nat) (line : String) :
    (s.readLine number line).LawfulFrom s := by
  rw [readLine]
  split
  · exact reject_lawful s.countLine number _
  · exact enact_lawful s.countLine number _

/-- Reading lines one after the other leaves a lawful trace. -/
theorem readLines_lawful (s : Session) (number : Nat) (lines : List Bytes) :
    (s.readLines number lines).LawfulFrom s := by
  induction lines generalizing s number with
  | nil => exact Outcome.lawfulFrom_done s
  | cons raw rest ih =>
      rw [readLines]
      split
      · exact Outcome.lawfulFrom_fail s _
      · exact Outcome.lawfulFrom_andThen (readLine_lawful s number _) (ih _ _)

/-- Reading a whole file leaves a lawful trace. -/
theorem readDefinitions_lawful (s : Session) (source : Except AccessError Bytes) :
    (s.readDefinitions source).LawfulFrom s := by
  refine Outcome.lawfulFrom_andThen (begin_lawful s) ?_
  refine Outcome.lawfulFrom_andThen ?_ (closePackage_lawful _)
  cases source with
  | error error => exact Outcome.lawfulFrom_fail _ _
  | ok bytes => exact readLines_lawful _ 1 _

/-! ### The end of the file -/

/-- A write fails only if the sink may refuse something. -/
theorem write_failure {s : Session} {chunk : Chunk} (hu : s.sink.admission = .unlimited) :
    (s.write chunk).failure = none := by
  obtain ⟨sink, -, hw | ⟨hr, -⟩⟩ := write_cases s chunk
  · rw [hw]
  · exact absurd hu hr

/-- The beginning is written unless the sink may refuse something. -/
theorem begin_failure {s : Session} (hu : s.sink.admission = .unlimited) :
    s.begin.failure = none := by
  rw [begin]
  split
  · rfl
  · exact write_failure hu

/-- The open package is closed unless the sink may refuse something. -/
theorem closePackage_failure {s : Session} (hu : s.sink.admission = .unlimited) :
    s.closePackage.failure = none := by
  rw [closePackage.eq_def]
  split
  · rfl
  · exact write_failure hu

/-- What a session does before it writes the end of the file: the beginning is tried and the
package that is open is closed, so that the end is permitted, or the sink refuses something. -/
theorem begin_closePackage_cases (s : Session) :
    (s.begin.andThen closePackage).LawfulFrom s ∧
      ((s.begin.andThen closePackage).failure = none ∧
          (s.begin.andThen closePackage).session.standing.PermitsChunk .postamble ∨
        (s.begin.andThen closePackage).failure ≠ none ∧ s.sink.admission ≠ .unlimited) := by
  refine ⟨Outcome.lawfulFrom_andThen (begin_lawful s) (closePackage_lawful _), ?_⟩
  have hadmission : s.begin.session.sink.admission = s.sink.admission :=
    (begin_lawful s).setting.2.2
  cases hb : s.begin.failure with
  | some failure =>
      refine .inr ⟨by simp [Outcome.andThen, hb], ?_⟩
      intro hu
      rw [begin_failure hu] at hb
      exact absurd hb (by simp)
  | none =>
      simp only [Outcome.andThen, hb]
      cases hc : s.begin.session.closePackage.failure with
      | some failure =>
          refine .inr ⟨by simp, ?_⟩
          intro hu
          rw [closePackage_failure (hadmission.trans hu)] at hc
          exact absurd hc (by simp)
      | none =>
          have hstarted : s.begin.session.closePackage.session.started = true := by
            rw [closePackage_started, begin_started]
          exact .inl ⟨rfl, hstarted, closePackage_scope _⟩

/-- What finishing can lead to: the sink refuses something before the end of the file, or the
end of the file is tried as the last thing, where it is permitted. Up to there the trace is
lawful. -/
theorem finish_cases (s : Session) :
    s.finish.LawfulFrom s ∧ s.sink.admission ≠ .unlimited ∨
      ∃ es : List Event, Lawful s.standing es s.finish.session.standing ∧
        s.finish.session.standing.PermitsChunk .postamble ∧
        (s.finish.trace = es ++ [.stored .postamble] ∧ s.finish.failure = none ∨
          s.finish.trace = es ++ [.refused .postamble] ∧ s.sink.admission ≠ .unlimited) := by
  have hfinish : s.finish = (s.begin.andThen closePackage).andThen fun s => s.write .postamble :=
    (Outcome.andThen_assoc _ _ _).symm
  rw [hfinish]
  obtain ⟨hlawful, ⟨hf, hend⟩ | ⟨hf, hu⟩⟩ := begin_closePackage_cases s
  · generalize s.begin.andThen closePackage = o at hlawful hf hend ⊢
    have hadmission : o.session.sink.admission = s.sink.admission := hlawful.setting.2.2
    refine .inr ⟨o.trace, ?_⟩
    obtain ⟨sink, hsink, hw | ⟨hu, hw⟩⟩ := write_cases o.session .postamble
    · have ht := standing_sink hsink
      rw [Outcome.andThen, hf, hw]
      exact ⟨ht ▸ hlawful, ht ▸ hend, .inl ⟨rfl, rfl⟩⟩
    · have ht := standing_sink hsink
      rw [Outcome.andThen, hf, hw]
      exact ⟨ht ▸ hlawful, ht ▸ hend, .inr ⟨rfl, hadmission ▸ hu⟩⟩
  · obtain ⟨failure, hsome⟩ := Option.ne_none_iff_exists'.mp hf
    refine .inl ⟨?_, hu⟩
    rw [Outcome.andThen, hsome]
    exact hlawful

/-- What every permitted event keeps, and the end of the file as well, is kept by finishing. -/
theorem finish_invariant {I : List Event → Standing → Prop}
    (step : ∀ past v e, I past v → v.Permits e → I (past ++ [e]) (v.after e))
    (ending : ∀ past v e, I past v → v.PermitsChunk .postamble →
      (e = .stored .postamble ∨ e = .refused .postamble) → I (past ++ [e]) v)
    {s : Session} {past : List Event} (h : I past s.standing) :
    I (past ++ s.finish.trace) s.finish.session.standing := by
  obtain ⟨hlawful, -⟩ | ⟨es, hes, hp, ⟨hend, -⟩ | ⟨hend, -⟩⟩ := finish_cases s
  · exact hlawful.invariant step h
  · rw [hend, ← List.append_assoc]
    exact ending _ _ _ (hes.invariant step h) hp (.inl rfl)
  · rw [hend, ← List.append_assoc]
    exact ending _ _ _ (hes.invariant step h) hp (.inr rfl)

end Session

end Phrasebook
