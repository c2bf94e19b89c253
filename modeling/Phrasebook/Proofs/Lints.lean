import Mathlib.Data.List.Forall2
import Phrasebook.Proofs.Session.Coupling

/-!
# Lints do not interfere

The options can ask for messages to be examined for likely mistakes. What an examination finds
is reported, and the message is remembered, so that another one of the same name is found to be
a duplicate. Nothing else depends on it: a run that examines its messages writes the same text,
fails in the same way and counts the same as the run that does not, and its notices are the
same once the findings are left out.

What is remembered is carried through the whole run and grows between two writes, so this has
to be shown along both runs at once. They are in step while their sessions agree in everything
but the option and what is remembered (`Unexamined`), and they never part.

## Main results

* `lintCoupling`: the run that does not examine is coupled to the one that does.
* `outcomes_eq_up_to_lints`: step by step, and for whole compilations, the two agree up to the
  findings.
-/

namespace Phrasebook

/-- Whether an event reports a likely mistake. -/
def Event.isLint : Event → Bool
  | .notice n => n.isLint
  | _ => false

/-- The sessions differ in whether messages are examined and in what is remembered of them, and
the traces in the findings. -/
structure Unexamined (s : Session) (es : List Event) (t : Session) (fs : List Event) : Prop where
  trace : fs = es.filter fun e => !e.isLint
  session : t = { s with options := { s.options with lint := false }, defined := t.defined }

namespace Unexamined

variable {s t : Session} {es fs : List Event}

/-- The runs stay in step if both sessions change alike and nothing new is a finding. -/
theorem change (h : Unexamined s es t fs) {s' t' : Session} {new : List Event}
    (hnew : ∀ e ∈ new, e.isLint = false)
    (hsession : t' = { s' with options := { s'.options with lint := false }, defined := t'.defined }) :
    Unexamined s' (es ++ new) t' (fs ++ new) := by
  refine ⟨?_, hsession⟩
  have hkept : (new.filter fun e => !e.isLint) = new := by
    rw [List.filter_eq_self]
    intro e he
    rw [hnew e he]
    rfl
  rw [List.filter_append, hkept, h.trace]

/-- An examination shows in the findings only. -/
theorem examine (h : Unexamined s es t fs) (m : Message) :
    Coupled Unexamined NeverCut ((s.examine m).after es) ((t.examine m).after fs) := by
  have hlint : ¬ t.options.lint = true := by
    rw [h.session]
    simp
  have hplain : t.examine m = .done t := if_neg hlint
  rw [hplain, Outcome.after_done]
  by_cases hs : s.options.lint = true
  · rw [Session.examine, if_pos hs]
    refine .together none ⟨?_, ?_⟩
    · have hfindings : ((s.findings m).map Event.notice).filter (fun e => !e.isLint) = [] := by
        rw [List.filter_eq_nil_iff]
        intro e he
        obtain ⟨n, hn, rfl⟩ := List.mem_map.mp he
        simp [Event.isLint, Session.findings_isLint s m n hn]
      rw [List.filter_append, hfindings, List.append_nil, h.trace]
    · exact h.session
  · rw [Session.examine, if_neg hs, Outcome.after_done]
    exact .together none h

end Unexamined

/-- The run that does not examine its messages goes along with the one that does. -/
def lintCoupling : Coupling where
  InStep := Unexamined
  Cut := NeverCut
  progress_eq h := by
    rw [h.session]
    rfl
  inStep_withProgress {s t es fs} v h := by
    refine ⟨h.trace, ?_⟩
    rw [h.session]
    rfl
  cut_failure := @NeverCut.failure_ne_none
  cut_append := @NeverCut.append
  inStep_report {s t es fs n} h hn := by
    refine h.change ?_ h.session
    rintro e he
    rw [List.mem_singleton.mp he]
    cases n <;> simp_all [Notice.isRoutine, Event.isLint, Notice.isLint]
  write chunk h := by
    refine .write_alike chunk (by rw [h.session]) (by rw [h.session]) ?_
    intro sink e he
    refine h.change ?_ (by rw [h.session])
    intro e' he'
    rw [List.mem_singleton.mp he']
    cases e <;> simp_all [Event.notice?, Event.isLint]
  examine m h := h.examine m
  reject number error h := by
    refine .reject_alike number error (by rw [h.session]) h (h.change ?_ ?_)
    · simp [Event.isLint, Notice.isLint]
    · rw [h.session]
      rfl

/-! ### Agreement up to lints -/

/-- Two outcomes have stored the same text, failed in the same way or not at all, and counted the
same; and the notices of the second are those of the first without the findings. -/
structure Outcome.EqUpToLints (examined plain : Outcome) : Prop where
  written : plain.written = examined.written
  failure : plain.failure = examined.failure
  summary : plain.session.summary = examined.session.summary
  notices : plain.notices = examined.notices.filter fun n => !n.isLint
  silent : plain.notices.all fun n => !n.isLint

/-- Leaving out the findings leaves the stored chunks. -/
theorem filterMap_stored_filter (es : List Event) :
    (es.filter fun e => !e.isLint).filterMap Event.stored? = es.filterMap Event.stored? := by
  rw [List.filterMap_filter]
  refine List.filterMap_congr ?_
  rintro (chunk | chunk | n) -
  · rfl
  · rfl
  · cases hn : n.isLint <;> simp [Event.isLint, Event.stored?, hn]

/-- Leaving out the findings leaves the other notices. -/
theorem filterMap_notice_filter (es : List Event) :
    (es.filter fun e => !e.isLint).filterMap Event.notice? =
      (es.filterMap Event.notice?).filter fun n => !n.isLint := by
  rw [List.filterMap_filter, List.filter_filterMap]
  refine List.filterMap_congr ?_
  rintro (chunk | chunk | n) -
  · rfl
  · rfl
  · cases hn : n.isLint <;> simp [Event.isLint, Event.notice?, Option.filter, hn]

/-- Coupled runs agree up to lints, and their sessions are in step again. -/
theorem lintCoupling_holds {o p : Outcome} (h : lintCoupling.Holds o p) :
    o.EqUpToLints p ∧ Unexamined o.session [] p.session [] := by
  obtain ⟨hin, hfailure, -⟩ | hcut := h.cases
  · have hnotices : p.notices = o.notices.filter fun n => !n.isLint := by
      rw [Outcome.notices, hin.trace, filterMap_notice_filter, Outcome.notices]
    refine ⟨⟨?_, hfailure, ?_, hnotices, ?_⟩, rfl, hin.session⟩
    · rw [Outcome.written, Outcome.written, Outcome.chunks, Outcome.chunks, hin.trace,
        filterMap_stored_filter, hin.session]
    · rw [hin.session]
    · rw [hnotices, List.all_eq_true]
      intro n hn
      exact (List.mem_filter.mp hn).2
  · exact hcut.elim

/-- Each step of two runs in step has the same outcome up to lints: a step that fails leaves the
sessions in step as well. -/
theorem Unexamined.outcomes {s t : Session} (h : Unexamined s [] t []) (finishing : Bool)
    (steps : List Step) :
    List.Forall₂ Outcome.EqUpToLints (s.outcomes finishing steps) (t.outcomes finishing steps) := by
  induction steps generalizing s t with
  | nil =>
      rw [Session.outcomes, Session.outcomes]
      cases finishing with
      | false => exact .nil
      | true =>
          have hfinish : lintCoupling.Holds s.finish t.finish := Coupling.keeps_finish.of_inStep h
          exact .cons (lintCoupling_holds hfinish).1 .nil
  | cons step rest ih =>
      have hstep : lintCoupling.Holds (s.perform step) (t.perform step) :=
        (Coupling.keeps_perform step).of_inStep h
      obtain ⟨heq, hin⟩ := lintCoupling_holds hstep
      exact .cons heq (ih hin)

/-- **Lints do not interfere.** Take any steps of a session, finished or not, for any layout, any
other options and any sink, once with an examination of messages and once without. Each step
has the same outcome in both runs, up to the findings, which the run without has none of. So
has a whole compilation. -/
theorem outcomes_eq_up_to_lints (options : Options) (admission : Admission) :
    (∀ (layout : Layout) (finishing : Bool) (steps : List Step),
      List.Forall₂ Outcome.EqUpToLints
        ((Session.start layout { options with lint := true } admission).outcomes finishing steps)
        ((Session.start layout { options with lint := false } admission).outcomes finishing steps)) ∧
    ∀ (output : Option Path) (source : Except AccessError Bytes),
      (compile admission { options with lint := true } output source).EqUpToLints
        (compile admission { options with lint := false } output source) := by
  refine ⟨?_, ?_⟩
  · intro layout finishing steps
    have hstart : Unexamined (Session.start layout { options with lint := true } admission) []
        (Session.start layout { options with lint := false } admission) [] := ⟨rfl, rfl⟩
    exact hstart.outcomes finishing steps
  · intro output source
    have hcompile : lintCoupling.Holds
        (compile admission { options with lint := true } output source)
        (compile admission { options with lint := false } output source) :=
      Coupling.holds_compile source ⟨rfl, rfl⟩
    exact (lintCoupling_holds hcompile).1

end Phrasebook
