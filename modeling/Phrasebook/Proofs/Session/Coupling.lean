import Phrasebook.Compile
import Phrasebook.Proofs.Session.Runs
import Phrasebook.Proofs.Session.Unhindered

/-!
# Two runs side by side

Many statements about sessions compare two runs that take the same steps and differ in some
setting: the sink, the options, or how chunks are spelled. This module says once how such a
comparison goes through the steps of a session.

A *coupling* relates two runs. As long as both go on they are *in step*: a relation between
their sessions and the traces that they have left, which the coupling is free to choose. The
two may also part, because the second run is *cut short*. It has failed then, and whatever
the first one still does only makes its trace longer.

Every step of a session is put together from six pieces: to move on (`Session.advance`), to
fail, to report, to write, to examine a message, and to reject a line. A coupling has to say
of each piece that it keeps two runs coupled; that all steps do so follows (`Coupling.Keeps`).

## Main results

* `Coupling.keeps_of_inStep` / `Coupling.Keeps.andThen`: what keeps two runs coupled, for one
  step and for two in turn.
* `Coupling.keeps_perform`: every step of a session keeps two runs coupled.
* `Coupling.keeps_process`: so does a whole compilation, apart from the notice about its target.
-/

namespace Phrasebook

/-! ### The pieces of a step -/

/-- How far a session has come: what its steps change by themselves, without regard to the sink
and to the messages that have been examined. -/
structure Progress where
  started : Bool
  scope : Option String
  summary : Summary

/-- One more line has been skipped. -/
def Progress.countSkipped (v : Progress) : Progress :=
  { v with summary := { v.summary with skipped := v.summary.skipped + 1 } }

namespace Session

/-- How far a session has come. -/
def progress (s : Session) : Progress :=
  { started := s.started, scope := s.scope, summary := s.summary }

/-- The session that has come so far. -/
def withProgress (s : Session) (v : Progress) : Session :=
  { s with started := v.started, scope := v.scope, summary := v.summary }

/-- Moves on, and does nothing else. -/
def advance (move : Progress → Progress) (s : Session) : Outcome :=
  .done (s.withProgress (move s.progress))

/-- A chunk that the sink takes is stored. -/
theorem write_of_takes {s : Session} {chunk : Chunk}
    (h : s.sink.takes (s.layout.text chunk) = true) :
    s.write chunk =
      { session := { s with sink := s.sink.offer (s.layout.text chunk) }
        trace := [.stored chunk] } :=
  if_pos h

/-- A chunk that the sink does not take is refused, and the step fails. -/
theorem write_of_not_takes {s : Session} {chunk : Chunk}
    (h : ¬ s.sink.takes (s.layout.text chunk) = true) :
    s.write chunk =
      { session := { s with sink := s.sink.offer (s.layout.text chunk) }
        trace := [.refused chunk]
        failure := some (.access .sinkFull) } :=
  if_neg h

/-- The likely mistakes of a message are reported as such. -/
theorem findings_isLint (s : Session) (m : Message) : ∀ n ∈ s.findings m, n.isLint = true := by
  intro n hn
  rw [findings, List.mem_append] at hn
  obtain hduplicate | hunused := hn
  · split at hduplicate
    · rw [List.mem_singleton.mp hduplicate]
      rfl
    · exact absurd hduplicate List.not_mem_nil
  · split at hunused
    · exact absurd hunused List.not_mem_nil
    · rw [List.mem_singleton.mp hunused]
      rfl

end Session

/-- Whether a notice is reported by every session at the same place, whatever its setting. -/
def Notice.isRoutine : Notice → Bool
  | .openingPackage _ | .generatingFunction _ _ | .lineIgnored _ _ => true
  | _ => false

/-- The outcome of a step, together with what was done before it. -/
def Outcome.after (o : Outcome) (past : List Event) : Outcome :=
  { o with trace := past ++ o.trace }

/-- A run that has done nothing more has what was done before. -/
theorem Outcome.after_done (s : Session) (past : List Event) :
    (done s).after past = ⟨s, past, none⟩ := by
  rw [after, done, List.append_nil]

/-- A run that fails at once has what was done before. -/
theorem Outcome.after_fail (s : Session) (failure : Failure) (past : List Event) :
    (fail s failure).after past = ⟨s, past, some failure⟩ := by
  rw [after, fail, List.append_nil]

/-- Reads a whole file and finishes: a compilation, apart from the notice about its target. -/
def Session.process (s : Session) (source : Except AccessError Bytes) : Outcome :=
  (s.readDefinitions source).andThen finish

/-- A compilation tells its target and then processes the file. -/
theorem compile_eq_process (admission : Admission) (options : Options) (output : Option Path)
    (source : Except AccessError Bytes) :
    compile admission options output source =
      ((Session.start (Layout.select options output) options admission).process source).after
        [.notice (.targetSelected options.target)] := by
  have htarget : (Layout.select options output).target = options.target := by
    rw [Layout.select]
    cases options.target <;> rfl
  rw [← htarget]
  rfl

/-! ### Couplings -/

/-- Two runs are in step, and have both failed in the same way or not at all; or the second one
has been cut short. -/
inductive Coupled (InStep : Session → List Event → Session → List Event → Prop)
    (Cut : List Event → Outcome → Prop) : Outcome → Outcome → Prop
  | together {s t : Session} {es fs : List Event} (failure : Option Failure) :
      InStep s es t fs → Coupled InStep Cut ⟨s, es, failure⟩ ⟨t, fs, failure⟩
  | parted {o p : Outcome} : Cut o.trace p → Coupled InStep Cut o p

namespace Coupled

variable {InStep : Session → List Event → Session → List Event → Prop}
  {Cut : List Event → Outcome → Prop} {s t : Session} {es fs : List Event}

/-- Runs that spell chunks alike and write to the same sink stay together when they write. -/
theorem write_alike (chunk : Chunk) (hlayout : t.layout = s.layout) (hsink : t.sink = s.sink)
    (h : ∀ sink e, e.notice? = none →
      InStep { s with sink := sink } (es ++ [e]) { t with sink := sink } (fs ++ [e])) :
    Coupled InStep Cut ((s.write chunk).after es) ((t.write chunk).after fs) := by
  have htakes : t.sink.takes (t.layout.text chunk) = s.sink.takes (s.layout.text chunk) := by
    rw [hlayout, hsink]
  have hoffer : t.sink.offer (t.layout.text chunk) = s.sink.offer (s.layout.text chunk) := by
    rw [hlayout, hsink]
  by_cases hs : s.sink.takes (s.layout.text chunk) = true
  · rw [Session.write_of_takes hs, Session.write_of_takes (htakes.trans hs), hoffer]
    exact .together none (h _ (.stored chunk) rfl)
  · rw [Session.write_of_not_takes hs, Session.write_of_not_takes (htakes ▸ hs), hoffer]
    exact .together _ (h _ (.refused chunk) rfl)

/-- Runs that have examined the same messages stay together when they examine another one, if
both do so or neither does. -/
theorem examine_alike (m : Message) (hlint : t.options.lint = s.options.lint)
    (hscope : t.scope = s.scope) (hdefined : t.defined = s.defined) (hin : InStep s es t fs)
    (h : ∀ defined (ns : List Notice), (∀ n ∈ ns, n.isLint = true) →
      InStep { s with defined := defined } (es ++ ns.map .notice)
        { t with defined := defined } (fs ++ ns.map .notice)) :
    Coupled InStep Cut ((s.examine m).after es) ((t.examine m).after fs) := by
  have hfindings : t.findings m = s.findings m := by
    rw [Session.findings, Session.findings, hscope, hdefined]
  have hinsert : t.defined.insert (t.scope, m.name) = s.defined.insert (s.scope, m.name) := by
    rw [hscope, hdefined]
  by_cases hs : s.options.lint = true
  · rw [Session.examine, if_pos hs, Session.examine, if_pos (hlint.trans hs), hfindings, hinsert]
    exact .together none (h _ _ (Session.findings_isLint s m))
  · rw [Session.examine, if_neg hs, Session.examine, if_neg (hlint ▸ hs), Outcome.after_done,
      Outcome.after_done]
    exact .together none hin

/-- Runs that are both strict or both lenient stay together when they reject a line. -/
theorem reject_alike (number : Nat) (error : Malformed)
    (hstrict : t.options.strict = s.options.strict) (hin : InStep s es t fs)
    (h : InStep s.countSkipped (es ++ [.notice (.lineSkipped number error)])
      t.countSkipped (fs ++ [.notice (.lineSkipped number error)])) :
    Coupled InStep Cut ((s.reject number error).after es) ((t.reject number error).after fs) := by
  by_cases hs : s.options.strict = true
  · rw [Session.reject, if_pos hs, Session.reject, if_pos (hstrict.trans hs), Outcome.after_fail,
      Outcome.after_fail]
    exact .together _ hin
  · rw [Session.reject, if_neg hs, Session.reject, if_neg (hstrict ▸ hs)]
    exact .together none h

end Coupled

/-- A way to relate two runs that every piece of a step keeps. -/
structure Coupling where
  /-- The two runs go on together: their sessions, each with the trace before it. -/
  InStep : Session → List Event → Session → List Event → Prop
  /-- The second run has been cut short, compared with the trace of the first one. -/
  Cut : List Event → Outcome → Prop
  progress_eq {s t es fs} : InStep s es t fs → t.progress = s.progress
  inStep_withProgress {s t es fs} (v : Progress) :
    InStep s es t fs → InStep (s.withProgress v) es (t.withProgress v) fs
  cut_failure {es p} : Cut es p → p.failure ≠ none
  cut_append {es p} (fs : List Event) : Cut es p → Cut (es ++ fs) p
  inStep_report {s t es fs n} : InStep s es t fs → n.isRoutine = true →
    InStep s (es ++ [.notice n]) t (fs ++ [.notice n])
  write {s t es fs} (chunk : Chunk) : InStep s es t fs →
    Coupled InStep Cut ((s.write chunk).after es) ((t.write chunk).after fs)
  examine {s t es fs} (m : Message) : InStep s es t fs →
    Coupled InStep Cut ((s.examine m).after es) ((t.examine m).after fs)
  reject {s t es fs} (number : Nat) (error : Malformed) : InStep s es t fs →
    Coupled InStep Cut ((s.reject number error).after es) ((t.reject number error).after fs)

/-- What `Coupling.Cut` is for runs that never part. -/
def NeverCut (_ : List Event) (_ : Outcome) : Prop :=
  False

namespace NeverCut

variable {es : List Event} {p : Outcome}

/-- What `Coupling.cut_failure` asks for; no run is cut. -/
theorem failure_ne_none (h : NeverCut es p) : p.failure ≠ none :=
  h.elim

/-- What `Coupling.cut_append` asks for; no run is cut. -/
theorem append (fs : List Event) (h : NeverCut es p) : NeverCut (es ++ fs) p :=
  h.elim

end NeverCut

namespace Coupling

/-- Two runs are coupled. -/
def Holds (c : Coupling) (o p : Outcome) : Prop :=
  Coupled c.InStep c.Cut o p

/-- What coupled runs have in common. -/
theorem Holds.cases {c : Coupling} {o p : Outcome} (h : c.Holds o p) :
    c.InStep o.session o.trace p.session p.trace ∧ p.failure = o.failure ∧ p.result = o.result ∨
      c.Cut o.trace p := by
  cases h with
  | parted hcut => exact .inr hcut
  | @together s t es fs failure hin =>
      have hsummary : t.summary = s.summary := congrArg Progress.summary (c.progress_eq hin)
      refine .inl ⟨hin, rfl, ?_⟩
      rw [Outcome.result, Outcome.result, hsummary]

/-- A step keeps two runs coupled that both go on with it. -/
def Keeps (c : Coupling) (step : Session → Outcome) : Prop :=
  ∀ o p, c.Holds o p → c.Holds (o.andThen step) (p.andThen step)

variable {c : Coupling}

/-- A step keeps runs coupled if it does so while they are in step: a run that has failed does
not take the step. -/
theorem keeps_of_inStep {step : Session → Outcome}
    (h : ∀ s es t fs, c.InStep s es t fs → c.Holds ((step s).after es) ((step t).after fs)) :
    c.Keeps step := by
  intro o p hop
  cases hop with
  | together failure hin =>
      cases failure with
      | none => exact h _ _ _ _ hin
      | some failure => exact .together (some failure) hin
  | parted hcut =>
      obtain ⟨failure, hfailure⟩ := Option.ne_none_iff_exists'.mp (c.cut_failure hcut)
      rw [Outcome.andThen_of_failure step hfailure]
      refine .parted ?_
      rw [Outcome.andThen]
      cases o.failure with
      | none => exact c.cut_append _ hcut
      | some _ => exact hcut

/-- Two steps in turn keep runs coupled. -/
theorem Keeps.andThen {first second : Session → Outcome} (h₁ : c.Keeps first)
    (h₂ : c.Keeps second) : c.Keeps fun s => (first s).andThen second := by
  intro o p hop
  rw [← Outcome.andThen_assoc, ← Outcome.andThen_assoc]
  exact h₂ _ _ (h₁ o p hop)

/-- A step that depends on the session keeps runs coupled if, for runs in step, it is the same
step on both sides. -/
theorem keeps_of_eq {step : Session → Outcome}
    (h : ∀ s es t fs, c.InStep s es t fs → ∃ same, c.Keeps same ∧ step s = same s ∧ step t = same t) :
    c.Keeps step := by
  refine keeps_of_inStep ?_
  intro s es t fs hin
  obtain ⟨same, hkeeps, hs, ht⟩ := h s es t fs hin
  rw [hs, ht]
  exact hkeeps ⟨s, es, none⟩ ⟨t, fs, none⟩ (.together none hin)

/-- Coupled runs stay coupled over a step that starts from their sessions. -/
theorem Keeps.of_inStep {step : Session → Outcome} {s t : Session} (h : c.Keeps step)
    (hin : c.InStep s [] t []) : c.Holds (step s) (step t) := by
  have hstep := h (.done s) (.done t) (.together none hin)
  rwa [Outcome.andThen_done, Outcome.andThen_done] at hstep

/-! ### The pieces -/

/-- Doing nothing keeps runs coupled. -/
theorem keeps_done : c.Keeps Outcome.done := by
  refine keeps_of_inStep ?_
  intro s es t fs hin
  rw [Outcome.after_done, Outcome.after_done]
  exact .together none hin

/-- Moving on keeps runs coupled: their progress is the same, so they move alike. -/
theorem keeps_advance (move : Progress → Progress) : c.Keeps (Session.advance move) := by
  refine keeps_of_inStep ?_
  intro s es t fs hin
  rw [Session.advance, Session.advance, Outcome.after_done, Outcome.after_done, c.progress_eq hin]
  exact .together none (c.inStep_withProgress _ hin)

/-- A failure for a reason that is given ends both runs. -/
theorem keeps_fail (failure : Failure) : c.Keeps fun s => .fail s failure := by
  refine keeps_of_inStep ?_
  intro s es t fs hin
  rw [Outcome.after_fail, Outcome.after_fail]
  exact .together (some failure) hin

/-- A routine notice is reported by both runs. -/
theorem keeps_report {n : Notice} (hn : n.isRoutine = true) : c.Keeps fun s => s.report n :=
  keeps_of_inStep fun _ _ _ _ hin => .together none (c.inStep_report hin hn)

/-- Writing a chunk keeps runs coupled, or parts them there. -/
theorem keeps_write (chunk : Chunk) : c.Keeps fun s => s.write chunk :=
  keeps_of_inStep fun _ _ _ _ hin => c.write chunk hin

/-- Examining a message keeps runs coupled, or parts them there. -/
theorem keeps_examine (m : Message) : c.Keeps fun s => s.examine m :=
  keeps_of_inStep fun _ _ _ _ hin => c.examine m hin

/-- Rejecting a line keeps runs coupled, or parts them there. -/
theorem keeps_reject (number : Nat) (error : Malformed) : c.Keeps fun s => s.reject number error :=
  keeps_of_inStep fun _ _ _ _ hin => c.reject number error hin

/-! ### The steps -/

/-- Moving on and then taking a step is taking the step from where one has moved. -/
theorem keeps_advanced {step : Session → Outcome} (move : Progress → Progress) (h : c.Keeps step) :
    c.Keeps fun s => step (s.withProgress (move s.progress)) := by
  have hmoved := (keeps_advance (c := c) move).andThen h
  simpa only [Session.advance, Outcome.andThen_done] using hmoved

/-- Beginning the file keeps runs coupled: both have begun it already, or neither has. -/
theorem keeps_begin : c.Keeps Session.begin := by
  refine keeps_of_eq ?_
  intro s es t fs hin
  have hstarted : t.started = s.started := congrArg Progress.started (c.progress_eq hin)
  by_cases hs : s.started = true
  · refine ⟨Outcome.done, keeps_done, if_pos hs, if_pos (hstarted.trans hs)⟩
  · exact ⟨_, keeps_advanced (fun v => { v with started := true }) (keeps_write .preamble),
      if_neg hs, if_neg (hstarted ▸ hs)⟩

/-- Closing a package keeps runs coupled: the same one is open in both, if any is. -/
theorem keeps_closePackage : c.Keeps Session.closePackage := by
  refine keeps_of_eq ?_
  intro s es t fs hin
  have hscope : t.scope = s.scope := congrArg Progress.scope (c.progress_eq hin)
  cases hs : s.scope with
  | none =>
      rw [hs] at hscope
      refine ⟨Outcome.done, keeps_done, ?_, ?_⟩
      · rw [Session.closePackage, hs]
      · rw [Session.closePackage, hscope]
  | some name =>
      rw [hs] at hscope
      refine ⟨_, keeps_advanced (fun v => { v with scope := none }) (keeps_write (.closing name)),
        ?_, ?_⟩
      · rw [Session.closePackage, hs]
        rfl
      · rw [Session.closePackage, hscope]
        rfl

/-- Opening a package keeps runs coupled. -/
theorem keeps_openPackage (name : String) : c.Keeps fun s => s.openPackage name := by
  have henter : c.Keeps fun s => .done (s.enter name) := keeps_advance fun v =>
    { v with
      scope := some name
      summary := { v.summary with namespaces := v.summary.namespaces + 1 } }
  refine keeps_begin.andThen (keeps_closePackage.andThen ?_)
  exact (keeps_report rfl).andThen ((keeps_write (.opening name)).andThen henter)

/-- Writing the function of a message keeps runs coupled. -/
theorem keeps_emit (m : Message) : c.Keeps fun s => s.emit m := by
  have hcount : c.Keeps fun s => .done s.countFunction := keeps_advance fun v =>
    { v with summary := { v.summary with functions := v.summary.functions + 1 } }
  refine keeps_begin.andThen ((keeps_examine m).andThen ?_)
  exact (keeps_report rfl).andThen ((keeps_write (.function m)).andThen hcount)

/-- Finishing the file keeps runs coupled. -/
theorem keeps_finish : c.Keeps Session.finish :=
  keeps_begin.andThen (keeps_closePackage.andThen (keeps_write .postamble))

/-- What an entry asks for keeps runs coupled. -/
theorem keeps_enact (number : Nat) (entry : Entry) : c.Keeps fun s => s.enact number entry := by
  have hskip : c.Keeps fun s => .done s.countSkipped := keeps_advance Progress.countSkipped
  cases entry with
  | nothing => exact keeps_done
  | package name => exact keeps_openPackage name
  | message m => exact keeps_emit m
  | ignored tokens => exact (keeps_report rfl).andThen hskip

/-- Reading a line keeps runs coupled: what the line asks for does not depend on the session. -/
theorem keeps_readLine (number : Nat) (line : String) : c.Keeps fun s => s.readLine number line := by
  have hcounted {step : Session → Outcome} (h : c.Keeps step) : c.Keeps fun s => step s.countLine :=
    keeps_advanced (fun v => { v with summary := { v.summary with lines := v.summary.lines + 1 } }) h
  simp only [Session.readLine]
  cases Entry.ofLine line with
  | error error => exact hcounted (keeps_reject number error)
  | ok entry => exact hcounted (keeps_enact number entry)

/-- Reading lines keeps runs coupled, by induction on the lines; one that is no text ends both
runs. -/
theorem keeps_readLines (number : Nat) (lines : List Bytes) :
    c.Keeps fun s => s.readLines number lines := by
  induction lines generalizing number with
  | nil => exact keeps_done
  | cons raw rest ih =>
      simp only [Session.readLines]
      cases Utf8.decode? raw with
      | none => exact keeps_fail (.access .invalidText)
      | some line => exact (keeps_readLine number line).andThen (ih (number + 1))

/-- Reading a whole file keeps runs coupled. -/
theorem keeps_readDefinitions (source : Except AccessError Bytes) :
    c.Keeps fun s => s.readDefinitions source := by
  refine keeps_begin.andThen (Keeps.andThen ?_ keeps_closePackage)
  cases source with
  | error error => exact keeps_fail (.access error)
  | ok bytes => exact keeps_readLines 1 (Line.split bytes)

/-- A whole compilation keeps two runs coupled, once they have told their targets. -/
theorem keeps_process (source : Except AccessError Bytes) : c.Keeps fun s => s.process source :=
  (keeps_readDefinitions source).andThen keeps_finish

/-- Two compilations of the same file are coupled if their sessions are in step once they have
told their targets. -/
theorem holds_compile {a a' : Admission} {options options' : Options} {output output' : Option Path}
    (source : Except AccessError Bytes)
    (h : c.InStep (Session.start (Layout.select options output) options a)
      [.notice (.targetSelected (Layout.select options output).target)]
      (Session.start (Layout.select options' output') options' a')
      [.notice (.targetSelected (Layout.select options' output').target)]) :
    c.Holds (compile a options output source) (compile a' options' output' source) :=
  keeps_process source _ _ (.together none h)

/-- **Every step of a session keeps two runs coupled.** -/
theorem keeps_perform (step : Step) : c.Keeps fun s => s.perform step := by
  cases step with
  | begin => exact keeps_begin
  | openPackage name => exact keeps_openPackage name
  | closePackage => exact keeps_closePackage
  | emit m => exact keeps_emit m
  | readLine number line => exact keeps_readLine number line
  | readDefinitions source => exact keeps_readDefinitions source

end Coupling

end Phrasebook
