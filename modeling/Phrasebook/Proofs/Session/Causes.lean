import Phrasebook.Compile
import Phrasebook.Proofs.Session.Unhindered

/-!
# Why a step fails

A step of a session fails for one of few reasons, and which of them is possible can be read
off the step. Writing fails only because the sink refuses a chunk. Reading a line can fail
besides because the line is malformed, if the options are strict, and reading a file because
it, or a line of it, cannot be read.

## Main results

* `enact_failsOnlyFor`, `finish_failsOnlyFor`: what writes fails only because the sink is full.
* `readLine_failsOnlyFor`, `readLines_failsOnlyFor`: a malformed line ends the reading only if
  the options are strict, and then the failure names the line and what is wrong with it.
* `compile_failure_malformed`: a compilation fails because of a malformed line only if the
  options are strict, and the line with this number is malformed.
-/

namespace Phrasebook

/-- If a step fails, it is for a reason of this kind. -/
def Outcome.FailsOnlyFor (o : Outcome) (reason : Failure → Prop) : Prop :=
  ∀ failure, o.failure = some failure → reason failure

namespace Outcome.FailsOnlyFor

variable {o : Outcome} {reason reason' : Failure → Prop}

/-- A step that fails only for one kind of reason fails only for a wider one. -/
theorem mono (h : o.FailsOnlyFor reason) (himp : ∀ f, reason f → reason' f) :
    o.FailsOnlyFor reason' :=
  fun failure hfailure => himp failure (h failure hfailure)

/-- Two steps in turn fail for the reasons of either. -/
theorem andThen {next : Session → Outcome} (h : o.FailsOnlyFor reason)
    (hn : (next o.session).FailsOnlyFor reason) : (o.andThen next).FailsOnlyFor reason := by
  intro failure hfailure
  cases ho : o.failure with
  | none =>
      rw [failure_andThen ho] at hfailure
      exact hn failure hfailure
  | some first =>
      rw [andThen_of_failure next ho] at hfailure
      exact h failure hfailure

/-- A step that succeeds fails for no reason. -/
theorem of_none (h : o.failure = none) : o.FailsOnlyFor reason := by
  intro failure hfailure
  rw [h] at hfailure
  exact absurd hfailure (by simp)

end Outcome.FailsOnlyFor

namespace Session

/-- The reason for which a write fails. -/
def SinkIsFull (failure : Failure) : Prop :=
  failure = .access .sinkFull

/-- A write fails only because the sink is full. -/
theorem write_failsOnlyFor (s : Session) (chunk : Chunk) :
    (s.write chunk).FailsOnlyFor SinkIsFull := by
  intro failure hfailure
  obtain ⟨sink, -, hw | ⟨-, hw⟩⟩ := write_cases s chunk
  · rw [hw] at hfailure
    exact absurd hfailure (by simp)
  · rw [hw] at hfailure
    exact (Option.some.inj hfailure).symm

/-- Beginning the file fails only because the sink is full. -/
theorem begin_failsOnlyFor (s : Session) : s.begin.FailsOnlyFor SinkIsFull := by
  rw [begin]
  split
  · exact .of_none rfl
  · exact write_failsOnlyFor _ _

/-- Closing a package fails only because the sink is full. -/
theorem closePackage_failsOnlyFor (s : Session) : s.closePackage.FailsOnlyFor SinkIsFull := by
  rw [closePackage.eq_def]
  split
  · exact .of_none rfl
  · exact write_failsOnlyFor _ _

/-- Opening a package fails only because the sink is full. -/
theorem openPackage_failsOnlyFor (s : Session) (name : String) :
    (s.openPackage name).FailsOnlyFor SinkIsFull := by
  refine (begin_failsOnlyFor s).andThen ((closePackage_failsOnlyFor _).andThen ?_)
  exact .andThen (.of_none rfl) ((write_failsOnlyFor _ _).andThen (.of_none rfl))

/-- Writing a function fails only because the sink is full; the examination before it cannot
fail. -/
theorem emit_failsOnlyFor (s : Session) (m : Message) : (s.emit m).FailsOnlyFor SinkIsFull := by
  refine (begin_failsOnlyFor s).andThen (.andThen (.of_none (examine_yields _ m).failure) ?_)
  exact .andThen (.of_none rfl) ((write_failsOnlyFor _ _).andThen (.of_none rfl))

/-- Finishing fails only because the sink is full. -/
theorem finish_failsOnlyFor (s : Session) : s.finish.FailsOnlyFor SinkIsFull := by
  refine (begin_failsOnlyFor s).andThen ((closePackage_failsOnlyFor _).andThen ?_)
  exact write_failsOnlyFor _ _

/-- What a well-formed line asks for fails only because the sink is full. -/
theorem enact_failsOnlyFor (s : Session) (number : Nat) (entry : Entry) :
    (s.enact number entry).FailsOnlyFor SinkIsFull := by
  cases entry with
  | nothing => exact .of_none rfl
  | package name => exact openPackage_failsOnlyFor s name
  | message m => exact emit_failsOnlyFor s m
  | ignored tokens => exact .of_none rfl

/-- A line fails because the sink is full, or because it is malformed and the options are
strict. -/
theorem readLine_failsOnlyFor (s : Session) (number : Nat) (line : String) :
    (s.readLine number line).FailsOnlyFor fun failure =>
      SinkIsFull failure ∨ s.options.strict = true ∧
        ∃ error, Entry.ofLine line = .error error ∧ failure = .malformed number error := by
  rw [readLine]
  cases Entry.ofLine line with
  | ok entry => exact (enact_failsOnlyFor s.countLine number entry).mono fun _ => .inl
  | error error =>
      dsimp only
      rw [reject]
      split
      next hstrict =>
        intro failure hfailure
        exact .inr ⟨hstrict, error, rfl, (Option.some.inj hfailure).symm⟩
      next => exact .of_none rfl

/-- Lines fail because the sink is full or a line is no text, or because a line is malformed and
the options are strict; the failure has the number of that line. -/
theorem readLines_failsOnlyFor (s : Session) (number : Nat) (lines : List Bytes) :
    (s.readLines number lines).FailsOnlyFor fun failure =>
      (∃ error, failure = .access error) ∨ s.options.strict = true ∧
        ∃ i line error, lines[i]?.bind Utf8.decode? = some line ∧
          Entry.ofLine line = .error error ∧ failure = .malformed (number + i) error := by
  induction lines generalizing s number with
  | nil => exact .of_none rfl
  | cons raw rest ih =>
      rw [readLines]
      cases hraw : Utf8.decode? raw with
      | none =>
          intro failure hfailure
          exact .inl ⟨.invalidText, (Option.some.inj hfailure).symm⟩
      | some line =>
          have hoptions : (s.readLine number line).session.options = s.options :=
            (readLine_lawful s number line).setting.2.1
          refine .andThen ((readLine_failsOnlyFor s number line).mono ?_)
            ((ih (s.readLine number line).session (number + 1)).mono ?_)
          · rintro failure (hfull | ⟨hstrict, error, herror, rfl⟩)
            · exact .inl ⟨.sinkFull, hfull⟩
            · exact .inr ⟨hstrict, 0, line, error, hraw, herror, rfl⟩
          · rintro failure (haccess | ⟨hstrict, i, line', error, hline, herror, rfl⟩)
            · exact .inl haccess
            · refine .inr ⟨hoptions ▸ hstrict, i + 1, line', error, hline, herror, ?_⟩
              rw [Nat.add_assoc, Nat.add_comm 1]

/-- A file fails because it or the sink cannot be used, or because one of its lines is malformed
and the options are strict; lines are numbered from one. -/
theorem readDefinitions_failsOnlyFor (s : Session) (source : Except AccessError Bytes) :
    (s.readDefinitions source).FailsOnlyFor fun failure =>
      (∃ error, failure = .access error) ∨ s.options.strict = true ∧
        ∃ bytes i line error, source = .ok bytes ∧
          (Line.split bytes)[i]?.bind Utf8.decode? = some line ∧
          Entry.ofLine line = .error error ∧ failure = .malformed (1 + i) error := by
  have hoptions : s.begin.session.options = s.options := (begin_lawful s).setting.2.1
  refine .andThen ((begin_failsOnlyFor s).mono fun _ hfull => .inl ⟨_, hfull⟩) ?_
  refine .andThen ?_ ((closePackage_failsOnlyFor _).mono fun _ hfull => .inl ⟨_, hfull⟩)
  cases source with
  | error error =>
      intro failure hfailure
      exact .inl ⟨error, (Option.some.inj hfailure).symm⟩
  | ok bytes =>
      refine (readLines_failsOnlyFor _ 1 (Line.split bytes)).mono ?_
      rintro failure (haccess | ⟨hstrict, i, line, error, hline⟩)
      · exact .inl haccess
      · exact .inr ⟨hoptions ▸ hstrict, bytes, i, line, error, rfl, hline⟩

end Session

/-- If a compilation fails because of a malformed line, the options are strict, and the line of
this number is malformed in this way. -/
theorem compile_failure_malformed {admission : Admission} {options : Options}
    {output : Option Path} {source : Except AccessError Bytes} {number : Nat} {error : Malformed}
    (h : (compile admission options output source).failure = some (.malformed number error)) :
    options.strict = true ∧ ∃ bytes i line, source = .ok bytes ∧ number = i + 1 ∧
      (Line.split bytes)[i]?.bind Utf8.decode? = some line ∧ Entry.ofLine line = .error error := by
  have hread := Session.readDefinitions_failsOnlyFor
    (Session.start (Layout.select options output) options admission) source
  have hfinish := Session.finish_failsOnlyFor
    ((Session.start (Layout.select options output) options admission).readDefinitions source).session
  have hcompile := Outcome.FailsOnlyFor.andThen hread
    (hfinish.mono fun _ hfull => .inl ⟨_, hfull⟩)
  obtain ⟨_, haccess⟩ | ⟨hstrict, bytes, i, line, error', hsource, hline, herror, hfailure⟩ :=
    hcompile (.malformed number error) h
  · exact absurd haccess (by simp)
  · obtain ⟨rfl, rfl⟩ := Failure.malformed.inj hfailure
    exact ⟨hstrict, bytes, i, line, hsource, Nat.add_comm 1 i, hline, herror⟩

end Phrasebook
