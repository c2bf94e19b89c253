import Phrasebook.Proofs.Messages
import Phrasebook.Proofs.Session.Attempts
import Phrasebook.Proofs.Success

/-!
# Findings are exact

Messages are examined one by one, as they come, and what is found about a message depends on what
the session remembers at that moment. This module says what is found in terms of the whole history
of a run: a message is reported as a duplicate exactly if an earlier one of the same name was
examined in the same scope, no matter which packages were opened and closed in between and whether
the function of the earlier one was written; and it is reported for the arguments that it takes
and does not use.

For a file that is compiled with success this can be read off its lines. The scope of a message is
then the name of the last package line before it, if there is one.

## Main results

* `Session.Knows.exact`: what is found in a session that knows a history.
* `Reported.of_known`: what is reported about the attempts of a history.
* `Session.definitions_attemptsOfLines`: the attempts of lines that are read with success are the
  messages that the lines define.
* `findings_exact`: findings are exact along every run, and for every compilation that succeeds.
-/

namespace Phrasebook

/-- What was found about a definition after earlier ones is exact: it is a duplicate if an earlier
one has its name and its scope, it has unused arguments if it takes one that its body does not refer
to, and then these are listed in ascending order. Nothing else is found, and nothing twice. -/
structure Exact (earlier : List Definition) (d : Definition) (found : List Notice) : Prop where
  duplicate : .duplicateMessage d.message.name d.scope ∈ found ↔
    ∃ e ∈ earlier, e.scope = d.scope ∧ e.message.name = d.message.name
  unused : (∃ indices, .unusedArguments d.message.name indices ∈ found) ↔
    ∃ i < d.message.arity, Part.argument i ∉ d.message.body
  listed : ∀ indices, .unusedArguments d.message.name indices ∈ found →
    indices.Pairwise (· < ·) ∧
      ∀ i, i ∈ indices ↔ i < d.message.arity ∧ Part.argument i ∉ d.message.body
  nothing_else : ∀ n ∈ found, n = .duplicateMessage d.message.name d.scope ∨
    ∃ indices, n = .unusedArguments d.message.name indices
  once : found.Nodup

/-- `Reported earlier ds remarks`: after earlier definitions, the remarks are about these ones, one
after the other. About each of them there is what was found, which is exact, and then its
function. -/
inductive Reported : List Definition → List Definition → List Notice → Prop
  | nil (earlier : List Definition) : Reported earlier [] []
  | cons {earlier later : List Definition} {d : Definition} {found remarks : List Notice} :
      Exact earlier d found → Reported (earlier ++ [d]) later remarks →
      Reported earlier (d :: later)
        (found ++ .generatingFunction d.message.name d.message.arity :: remarks)

namespace Attempt

/-- What an attempt finds. -/
def findings (a : Attempt) : List Notice :=
  a.outcome.notices.filter Notice.isLint

end Attempt

/-- What the attempts that reached their examination are about. -/
def definitions (attempts : List Attempt) : List Definition :=
  (attempts.filter Attempt.reaches).map Attempt.definition

/-- A longer history goes on with the definitions of the attempts that are added. -/
theorem definitions_append (first others : List Attempt) :
    definitions (first ++ others) = definitions first ++ definitions others := by
  rw [definitions, List.filter_append, List.map_append]
  rfl

/-- An attempt that reaches the examination adds what it is about. -/
theorem definitions_of_reaches {a : Attempt} (h : a.reaches = true) :
    definitions [a] = [a.definition] := by
  rw [definitions, List.filter_cons_of_pos h]
  rfl

/-- An attempt that does not reach the examination adds no definition. -/
theorem definitions_of_not_reaches {a : Attempt} (h : a.reaches = false) :
    definitions [a] = [] := by
  rw [definitions, List.filter_cons_of_neg (Bool.not_eq_true _ ▸ h)]
  rfl

/-! ### What is found in a session -/

namespace Session

variable {s : Session} {m : Message}

/-- A message is found to be a duplicate if its name is remembered in the open package. -/
theorem duplicateMessage_mem_findings_iff :
    .duplicateMessage m.name s.scope ∈ s.findings m ↔ (s.scope, m.name) ∈ s.defined := by
  simp [findings]

/-- Unused arguments are found if there are any, and then all of them are listed. -/
theorem unusedArguments_mem_findings_iff {indices : List Nat} :
    .unusedArguments m.name indices ∈ s.findings m ↔ m.unused ≠ [] ∧ indices = m.unused := by
  by_cases h : m.unused = [] <;> simp [findings, h]

/-- Nothing is found twice. -/
theorem findings_nodup (s : Session) (m : Message) : (s.findings m).Nodup := by
  rw [findings]
  split <;> split <;> simp

/-- Nothing is found but a duplicate and unused arguments. -/
theorem eq_of_mem_findings {n : Notice} (h : n ∈ s.findings m) :
    n = .duplicateMessage m.name s.scope ∨ ∃ indices, n = .unusedArguments m.name indices := by
  rw [findings, List.mem_append] at h
  obtain h | h := h
  · split at h
    · exact .inl (List.mem_singleton.mp h)
    · exact absurd h List.not_mem_nil
  · split at h
    · exact absurd h List.not_mem_nil
    · exact .inr ⟨_, List.mem_singleton.mp h⟩

/-- **What is found in a session that knows a history** is exact. -/
theorem Knows.exact {past : List Attempt} (h : s.Knows past) (m : Message) :
    Exact (definitions past) ⟨s.scope, m⟩ (s.findings m) where
  duplicate := by
    rw [duplicateMessage_mem_findings_iff, h.mem_defined_iff]
    simp [definitions, Attempt.definition, and_assoc]
  unused := by
    simp only [unusedArguments_mem_findings_iff, exists_and_left, exists_eq, and_true]
    rw [ne_eq, List.eq_nil_iff_forall_not_mem, not_forall_not]
    simp only [Message.mem_unused_iff, Message.mem_references_iff]
  listed := by
    intro indices hmem
    obtain ⟨-, rfl⟩ := unusedArguments_mem_findings_iff.mp hmem
    refine ⟨m.unused_pairwise, ?_⟩
    intro i
    rw [Message.mem_unused_iff, Message.mem_references_iff]
  nothing_else _ hn := eq_of_mem_findings hn
  once := findings_nodup s m

end Session

/-! ### What is reported about attempts -/

namespace Attempt

variable {a : Attempt} {past : List Attempt}

/-- Once the file has been begun, every attempt reaches the examination. -/
theorem reaches_of_started (h : a.session.started = true) : a.reaches = true := by
  rw [reaches, Session.begin_of_started h]
  rfl

/-- Nothing is reported about an attempt that does not reach the examination. -/
theorem remarks_of_not_reaches (h : a.reaches = false) : a.outcome.remarks = [] := by
  rw [reaches, Option.isNone_eq_false_iff, Option.isSome_iff_exists] at h
  obtain ⟨failure, hfailure⟩ := h
  rw [outcome, Session.emit_of_begin_fails _ hfailure, (Session.begin_unconcerned _).remarks]

/-- About an attempt that reaches the examination, what is found is reported, and then its
function. -/
theorem remarks_of_reaches (hs : a.session.Knows past) (h : a.reaches = true) :
    a.outcome.remarks = a.session.findings a.message ++
      [.generatingFunction a.message.name a.message.arity] :=
  (Session.emit_of_begin_succeeds a.message hs.lint (Option.isNone_iff_eq_none.mp h)).1

/-- Findings are among the remarks. -/
theorem findings_eq_filter_remarks (a : Attempt) :
    a.findings = a.outcome.remarks.filter Notice.isLint := by
  rw [findings, Outcome.remarks, List.filter_filter]
  refine List.filter_congr fun n _ => ?_
  cases n <;> rfl

/-- An attempt that reaches the examination finds what its session finds. -/
theorem findings_of_reaches (hs : a.session.Knows past) (h : a.reaches = true) :
    a.findings = a.session.findings a.message := by
  rw [findings_eq_filter_remarks, remarks_of_reaches hs h, List.filter_append,
    List.filter_eq_self.mpr (Session.findings_isLint _ _)]
  exact List.append_nil _

/-- An attempt that does not reach the examination finds nothing. -/
theorem findings_of_not_reaches (h : a.reaches = false) : a.findings = [] := by
  rw [findings_eq_filter_remarks, remarks_of_not_reaches h]
  rfl

end Attempt

/-- **What is reported about the attempts of a history.** The induction is on what is left of the
history; an attempt that does not reach its examination adds neither a definition nor a remark. -/
theorem Reported.of_known {past new : List Attempt}
    (h : ∀ before a after, new = before ++ a :: after → a.session.Knows (past ++ before)) :
    Reported (definitions past) (definitions new) (new.flatMap fun a => a.outcome.remarks) := by
  induction new generalizing past with
  | nil => exact .nil _
  | cons a rest ih =>
      have ha : a.session.Knows past := by
        have hknows := h [] a rest rfl
        rwa [List.append_nil] at hknows
      have hrest : Reported (definitions (past ++ [a])) (definitions rest)
          (rest.flatMap fun a => a.outcome.remarks) := by
        refine ih fun before b after hsplit => ?_
        have hknows := h (a :: before) b after (by rw [hsplit, List.cons_append])
        rwa [List.append_cons] at hknows
      rw [definitions_append] at hrest
      rw [← List.singleton_append, definitions_append, List.flatMap_append,
        List.flatMap_singleton]
      cases hreaches : a.reaches with
      | false =>
          rw [definitions_of_not_reaches hreaches, List.append_nil] at hrest
          rw [definitions_of_not_reaches hreaches, Attempt.remarks_of_not_reaches hreaches]
          exact hrest
      | true =>
          rw [definitions_of_reaches hreaches] at hrest
          rw [definitions_of_reaches hreaches, Attempt.remarks_of_reaches ha hreaches,
            List.append_assoc]
          exact .cons (ha.exact a.message) hrest

/-! ### Files that are read to the end -/

/-- The messages that effective lines define, each with the package that is open, given the one that
is open before them. -/
def Reference.defined : Option String → List Reference.Effective → List Definition
  | _, [] => []
  | scope, .message m :: rest => ⟨scope, m⟩ :: defined scope rest
  | _, .package name :: rest => defined (some name) rest

/-- Lines define messages one part after the other, in the package that the first part leaves
open. -/
theorem Reference.defined_append (scope : Option String)
    (first others : List Reference.Effective) :
    defined scope (first ++ others) =
      defined scope first ++ defined (scopeAfter scope first) others := by
  induction first generalizing scope with
  | nil => rfl
  | cons line rest ih => cases line <;> simp [defined, scopeAfter, ih]

namespace Session

variable {s : Session} {number : Nat} {line : String}

/-- A package that has been opened with success is open. -/
theorem openPackage_scope {name : String} (h : (s.openPackage name).failure = none) :
    (s.openPackage name).session.scope = some name := by
  obtain ⟨hbegin, h⟩ := Outcome.succeeds_of_andThen h
  obtain ⟨hclose, h⟩ := Outcome.succeeds_of_andThen h
  obtain ⟨hreport, h⟩ := Outcome.succeeds_of_andThen h
  obtain ⟨hwrite, -⟩ := Outcome.succeeds_of_andThen h
  rw [openPackage, Outcome.session_andThen hbegin, Outcome.session_andThen hclose,
    Outcome.session_andThen hreport, Outcome.session_andThen hwrite]
  rfl

/-- An attempt to write a function leaves the package open. -/
theorem emit_scope (s : Session) (m : Message) : (s.emit m).session.scope = s.scope := by
  have hbegin := begin_scope s
  have hexamine := (examine_yields s.begin.session m).scope.trans hbegin
  refine Outcome.andThen_keeps (P := fun t => t.scope = s.scope) hbegin ?_
  refine Outcome.andThen_keeps (P := fun t => t.scope = s.scope) hexamine ?_
  refine Outcome.andThen_keeps (P := fun t => t.scope = s.scope) hexamine ?_
  have hwrite := (write_scope (s.begin.session.examine m).session (.function m)).trans hexamine
  exact Outcome.andThen_keeps (P := fun t => t.scope = s.scope) hwrite hwrite

/-- The package that is open after a line whose reading succeeds. -/
theorem readLine_scope (h : (s.readLine number line).failure = none) :
    (s.readLine number line).session.scope =
      Reference.scopeAfter s.scope (Reference.effective? line).toList := by
  rw [readLine] at h ⊢
  obtain ⟨error, -, hnone, hentry⟩ | ⟨-, entry, hentry, heffective⟩ := Reference.ofLine_cases line
  · rw [hentry, hnone]
    dsimp only
    rw [reject]
    split <;> rfl
  · rw [hentry] at h ⊢
    rw [← heffective]
    cases entry with
    | nothing => rfl
    | package name => exact openPackage_scope h
    | message m => exact emit_scope s.countLine m
    | ignored tokens => rfl

/-- A line leads to an attempt if it defines a message. -/
theorem definitions_attemptsOfLine (hstarted : s.started = true) :
    definitions (s.attemptsOfLine line) =
      Reference.defined s.scope (Reference.effective? line).toList := by
  rw [attemptsOfLine]
  obtain ⟨error, -, hnone, hentry⟩ | ⟨-, entry, hentry, heffective⟩ := Reference.ofLine_cases line
  · rw [hentry, hnone]
    rfl
  · rw [hentry, ← heffective]
    cases entry with
    | nothing => rfl
    | package name => rfl
    | message m =>
        have hreaches : (Attempt.mk s.countLine m).reaches = true :=
          Attempt.reaches_of_started hstarted
        exact definitions_of_reaches hreaches
    | ignored tokens => rfl

/-- **The attempts of lines whose reading succeeds** are the messages that the lines define. -/
theorem definitions_attemptsOfLines {lines : List Bytes} {texts : List String}
    (hstarted : s.started = true) (h : (s.readLines number lines).failure = none)
    (htexts : lines.map Utf8.decode? = texts.map some) :
    definitions (s.attemptsOfLines number lines) =
      Reference.defined s.scope (texts.filterMap Reference.effective?) := by
  induction lines generalizing s number texts with
  | nil =>
      obtain rfl : texts = [] := List.map_eq_nil_iff.mp htexts.symm
      rfl
  | cons raw rest ih =>
      obtain ⟨text, texts, rfl, hraw, hrest⟩ := List.map_eq_cons_iff.mp htexts.symm
      rw [readLines, ← hraw] at h
      obtain ⟨hline, hlines⟩ := Outcome.succeeds_of_andThen h
      have hlater := ih (Lawful.started (readLine_lawful s number text) hstarted) hlines hrest.symm
      rw [readLine_scope hline] at hlater
      rw [attemptsOfLines, ← hraw, Reference.filterMap_effective?_cons, Reference.defined_append,
        ← hlater, ← definitions_attemptsOfLine hstarted, ← definitions_append]
      dsimp only
      rw [Outcome.attempts, hline]

end Session

section Compile

variable {admission : Admission} {options : Options} {output : Option Path}

/-- A compilation makes the attempts of its file. -/
theorem compile_records (hlint : options.lint = true) (source : Except AccessError Bytes) :
    (compile admission options output source).Records []
      ((Session.start (Layout.select options output) options admission).attemptsOf
        (.readDefinitions source)) := by
  have hstart := Session.start_knows (Layout.select options output) admission hlint
  exact (Session.report_unconcerned _ rfl).andThen_records hstart fun t ht =>
    (Session.readDefinitions_records ht source).andThen_unconcerned (Session.finish_unconcerned _)

/-- The attempts of a compilation that succeeds are the messages that its lines define. -/
theorem definitions_of_compile_succeeds {bytes : Bytes} {texts : List String}
    (htexts : (Line.split bytes).map Utf8.decode? = texts.map some)
    (h : (compile admission options output (.ok bytes)).failure = none) :
    definitions ((Session.start (Layout.select options output) options admission).attemptsOf
        (.readDefinitions (.ok bytes))) =
      Reference.defined none (texts.filterMap Reference.effective?) := by
  obtain ⟨-, h⟩ := Outcome.succeeds_of_andThen h
  obtain ⟨h, -⟩ := Outcome.succeeds_of_andThen h
  obtain ⟨hbegins, h⟩ := Outcome.succeeds_of_andThen h
  obtain ⟨hread, -⟩ := Outcome.succeeds_of_andThen h
  have hbegin : (Session.start (Layout.select options output) options admission).begin.failure =
      none := hbegins
  have hlines := Session.definitions_attemptsOfLines (Session.begin_started _) hread htexts
  rw [Session.begin_scope] at hlines
  rw [Session.attemptsOf, Outcome.attempts, hbegin]
  exact hlines

end Compile

/-! ### The main result -/

/-- **Findings are exact.** Let the options ask for examinations.

* Take any steps of a session, for any layout and any pattern of refusals, and an attempt among
  those that the steps lead to. If it reaches its examination, what it finds is exact after the
  earlier ones that reached theirs, whatever happened in between; if not, it finds nothing. The
  steps report what the attempts find and nothing else.
* A compilation that succeeds reports what is exact for the messages that its lines define, one
  after the other, each in the scope of the last package line before it, if there is one.
* The report of unused arguments names each of them as the function does. -/
theorem findings_exact (options : Options) (hlint : options.lint = true) (admission : Admission) :
    (∀ (layout : Layout) (finishing : Bool) (steps : List Step),
      let s := Session.start layout options admission
      (∀ earlier a later, s.attempts steps = earlier ++ a :: later →
        (a.reaches = true → Exact (definitions earlier) a.definition a.findings) ∧
        (a.reaches = false → a.findings = [])) ∧
      Reported [] (definitions (s.attempts steps))
        ((s.outcomes finishing steps).flatMap Outcome.remarks)) ∧
    (∀ (output : Option Path) (bytes : Bytes),
      let o := compile admission options output (.ok bytes)
      o.failure = none →
        ∃ texts : List String, (Line.split bytes).map Utf8.decode? = texts.map some ∧
          Reported [] (Reference.defined none (texts.filterMap Reference.effective?)) o.remarks) ∧
    ∀ (name : String) (indices : List Nat),
      (Notice.unusedArguments name indices).message =
        "Message '" ++ name ++ "' declares parameters it never uses: " ++
          ", ".intercalate (indices.map fun i => "P" ++ toString i) := by
  refine ⟨?_, ?_, fun _ _ => rfl⟩
  · intro layout finishing steps s
    have hrecords := Session.run_records (Session.start_knows layout admission hlint) steps
    refine ⟨?_, ?_⟩
    · intro earlier a later hsplit
      have hknows : a.session.Knows earlier := hrecords.known earlier a later hsplit
      refine ⟨?_, Attempt.findings_of_not_reaches⟩
      intro hreaches
      rw [Attempt.findings_of_reaches hknows hreaches]
      exact hknows.exact a.message
    · rw [Session.flatMap_remarks_outcomes, hrecords.remarks]
      exact .of_known hrecords.known
  · intro output bytes o hsucceeds
    obtain ⟨texts, htexts, -⟩ := compile_succeeds hsucceeds
    have hrecords : o.Records [] _ := compile_records hlint (.ok bytes)
    refine ⟨texts, htexts, ?_⟩
    rw [← definitions_of_compile_succeeds htexts hsucceeds, hrecords.remarks]
    exact .of_known hrecords.known

/-- Three attempts for one message. The beginning of the file is refused to the first one, so it
does not count. The function of the second one is refused, and yet the third one, in another block of
the same package, is found to be a duplicate. A compilation finds the same in the lines of a file. -/
theorem findings_exact_reopened :
    let options : Options := { lint := true }
    let admission : Admission := fun offered _ _ => offered != 0 && offered != 2
    let m : Message := ⟨"m", 2, [.argument 1]⟩
    let steps : List Step :=
      [.emit m, .openPackage "p", .emit m, .closePackage, .openPackage "p", .emit m]
    let o := compile (.upTo 2000) options none
      (.ok (Utf8.encode "m a\npackage p\nm \x7b1\x7d\npackage q\nm b\npackage p\nm c\n"))
    (∃ a b c, (Session.start .rustModule options admission).attempts steps = [a, b, c] ∧
      a.reaches = false ∧ a.findings = [] ∧
      b.reaches = true ∧ Exact [] ⟨some "p", m⟩ b.findings ∧
      c.reaches = true ∧ Exact [⟨some "p", m⟩] ⟨some "p", m⟩ c.findings ∧
      .duplicateMessage "m" (some "p") ∈ c.findings ∧ .unusedArguments "m" [0] ∈ c.findings) ∧
    o.failure = none ∧
      ∃ texts : List String,
        Reported [] (Reference.defined none (texts.filterMap Reference.effective?)) o.remarks := by
  intro options admission m steps o
  let s := Session.start .rustModule options admission
  let a : Attempt := ⟨s, m⟩
  let t := ((s.emit m).session.openPackage "p").session
  let b : Attempt := ⟨t, m⟩
  let c : Attempt := ⟨((t.emit m).session.closePackage.session.openPackage "p").session, m⟩
  have hsplit : s.attempts steps = [a, b, c] := rfl
  obtain ⟨hattempts, -⟩ := (findings_exact options rfl admission).1 .rustModule true steps
  have ha : a.reaches = false := by decide +kernel
  have hb : b.reaches = true ∧ b.definition = ⟨some "p", m⟩ ∧ definitions [a] = [] := by
    decide +kernel
  have hc : c.reaches = true ∧ c.definition = ⟨some "p", m⟩ ∧
      definitions [a, b] = [⟨some "p", m⟩] := by
    decide +kernel
  have hfirst := (hattempts [] a [b, c] hsplit).2 ha
  have hsecond := (hattempts [a] b [c] hsplit).1 hb.1
  have hthird := (hattempts [a, b] c [] hsplit).1 hc.1
  rw [hb.2.1, hb.2.2] at hsecond
  rw [hc.2.1, hc.2.2] at hthird
  have hduplicate : .duplicateMessage "m" (some "p") ∈ c.findings :=
    hthird.duplicate.mpr ⟨_, List.mem_singleton_self _, rfl, rfl⟩
  have hunused : .unusedArguments "m" [0] ∈ c.findings := by decide +kernel
  have hsucceeds : o.failure = none := by decide +kernel
  obtain ⟨texts, -, hreported⟩ := (findings_exact options rfl (.upTo 2000)).2.1 none _ hsucceeds
  exact ⟨⟨a, b, c, hsplit, ha, hfirst, hb.1, hsecond, hc.1, hthird, hduplicate, hunused⟩,
    hsucceeds, texts, hreported⟩

end Phrasebook
