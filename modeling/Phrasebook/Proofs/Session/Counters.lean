import Phrasebook.Proofs.Reference
import Phrasebook.Proofs.Session.Coupling
import Phrasebook.Proofs.Session.LineCounts
import Phrasebook.Proofs.Tokens

/-!
# Every line is accounted for

A session counts lines, packages, functions and skipped lines. The counters are kept at
different places: lines before a line is read, packages and functions after the write that
may be refused, skipped lines at once. The notices that tell of the same things are given at
yet other places. This module says that they agree.

Each line has a *counter* to which it belongs, unless it is blank or a comment
(`Line.counter?`), and so has each notice of the kinds that tell of a package, a function or a
skipped line (`Notice.counter?`). A line whose reading succeeds adds one to its counter and to
no other, and gives one notice of that counter and none of another; a line whose reading fails
adds to none. What a step tells of and what it counts are kept apart along its parts
(`Outcome.Tallies`), because a package is told of before its opening is written and counted
after.

## Main results

* `readLine_tallies`: what reading a line tells of and counts.
* `readLines_accounts`, `readDefinitions_accounts`: the lines of a file that is read to its end.
* `lines_accounted`: each line is accounted for once, and the counters agree with the notices.
-/

namespace Phrasebook

/-- The counters of a run other than that of the lines. -/
inductive Counter where
  | namespaces
  | functions
  | skipped
  deriving DecidableEq, Repr

/-- The value of a counter. -/
def Summary.get (v : Summary) : Counter → Nat
  | .namespaces => v.namespaces
  | .functions => v.functions
  | .skipped => v.skipped

/-- The counter of what a notice tells of. -/
def Notice.counter? : Notice → Option Counter
  | .openingPackage _ => some .namespaces
  | .generatingFunction _ _ => some .functions
  | .lineIgnored _ _ | .lineSkipped _ _ => some .skipped
  | _ => none

/-- The counter of a line: blank lines and comments have none, a line that contributes nothing
belongs to the skipped ones. -/
def Line.counter? (line : String) : Option Counter :=
  if isSilent line.toList then none
  else
    match Reference.effective? line with
    | some (.package _) => some .namespaces
    | some (.message _) => some .functions
    | none => some .skipped

/-- The counter of an entry. -/
def Entry.counter? : Entry → Option Counter
  | .nothing => none
  | .package _ => some .namespaces
  | .message _ => some .functions
  | .ignored _ => some .skipped

/-! ### The counter of a line -/

/-- Exactly the blank lines and comments have no counter. -/
theorem Line.counter?_eq_none_iff (line : String) :
    counter? line = none ↔ isSilent line.toList = true := by
  rw [counter?]
  split
  next h => simp [h]
  next h => split <;> simp [h]

/-- Exactly the lines without tokens have no directive. -/
theorem Directive.ofTokens_eq_nothing_iff (tokens : List String) :
    ofTokens tokens = .nothing ↔ tokens = [] := by
  rcases tokens with - | ⟨first, rest⟩
  · simp [ofTokens]
  · simp only [ofTokens, reduceCtorEq, iff_false]
    split <;> split <;> simp

/-- Only a line without a directive asks for nothing. -/
theorem Entry.ofDirective_eq_nothing_iff (d : Directive) :
    ofDirective d = .ok .nothing ↔ d = .nothing := by
  cases d with
  | nothing => simp [ofDirective]
  | package name => simp [ofDirective]
  | message name template =>
      rw [ofDirective]
      split <;> simp
  | ignored tokens => simp [ofDirective]

/-- Exactly the blank lines and comments ask for nothing. -/
theorem Entry.ofLine_eq_nothing_iff (line : String) :
    ofLine line = .ok .nothing ↔ Line.isSilent line.toList = true := by
  rw [← Line.tokens_eq_nil_iff, ofLine]
  cases Line.tokens line with
  | error error => simp
  | ok tokens =>
      dsimp only
      rw [ofDirective_eq_nothing_iff, Directive.ofTokens_eq_nothing_iff, Except.ok.injEq]

/-- A malformed line belongs to the skipped ones, and any other line to the counter of its
entry. -/
theorem Line.counter?_eq (line : String) :
    counter? line =
      match Entry.ofLine line with
      | .error _ => some .skipped
      | .ok entry => entry.counter? := by
  have hsilent := Entry.ofLine_eq_nothing_iff line
  rw [counter?]
  obtain ⟨error, -, hnone, hentry⟩ | ⟨-, entry, hentry, heffective⟩ := Reference.ofLine_cases line
  · rw [hentry] at hsilent
    rw [hentry, hnone, if_neg (by simpa using hsilent)]
  · rw [hentry, Except.ok.injEq] at hsilent
    rw [hentry, ← heffective]
    cases entry with
    | nothing => rw [if_pos (hsilent.mp rfl)]; rfl
    | package name => rw [if_neg (by simpa using hsilent)]; rfl
    | message m => rw [if_neg (by simpa using hsilent)]; rfl
    | ignored tokens => rw [if_neg (by simpa using hsilent)]; rfl

/-! ### What a step tells of and counts -/

/-- A step that succeeds tells of some things and counts some things; a step that fails counts
none. -/
structure Outcome.Tallies (o : Outcome) (before : Summary) (told counted : List Counter) :
    Prop where
  told : o.failure = none → o.notices.filterMap Notice.counter? = told
  counted : o.failure = none → ∀ c, o.session.summary.get c = before.get c + counted.count c
  failed : o.failure ≠ none → ∀ c, o.session.summary.get c = before.get c

namespace Outcome

namespace Tallies

/-- A step that counts nothing can come before another one. -/
theorem andThen {o : Outcome} {next : Session → Outcome} {before : Summary}
    {told told' counted : List Counter} (h : o.Tallies before told [])
    (hn : (next o.session).Tallies o.session.summary told' counted) :
    (o.andThen next).Tallies before (told ++ told') counted := by
  cases ho : o.failure with
  | some failure =>
      rw [andThen_of_failure next ho]
      have hfails : o.failure ≠ none := by simp [ho]
      exact ⟨fun hnone => absurd hnone hfails, fun hnone => absurd hnone hfails, h.failed⟩
  | none =>
      have hkept : ∀ c, o.session.summary.get c = before.get c := h.counted ho
      have hfailure : (o.andThen next).failure = (next o.session).failure := failure_andThen ho
      have hsession : (o.andThen next).session = (next o.session).session := session_andThen ho
      refine ⟨?_, ?_, ?_⟩
      · intro hnone
        rw [notices_andThen ho, List.filterMap_append, h.told ho, hn.told (hfailure ▸ hnone)]
      · intro hnone c
        rw [hsession, hn.counted (hfailure ▸ hnone), hkept]
      · intro hsome c
        rw [hsession, hn.failed (hfailure ▸ hsome), hkept]

/-- A step that leaves the summary counts nothing. -/
theorem of_summary {o : Outcome} {before : Summary} {told : List Counter}
    (hsummary : o.session.summary = before)
    (htold : o.failure = none → o.notices.filterMap Notice.counter? = told) :
    o.Tallies before told [] :=
  ⟨htold, fun _ c => by rw [hsummary]; rfl, fun _ c => by rw [hsummary]⟩

end Tallies

end Outcome

namespace Session

/-- A notice tells of its own counter and counts nothing. -/
theorem report_tallies (s : Session) (n : Notice) :
    (s.report n).Tallies s.summary n.counter?.toList [] := by
  refine .of_summary rfl fun _ => ?_
  cases h : n.counter? <;> simp [report, Outcome.notices, Event.notice?, h]

/-- Writing a chunk counts nothing. -/
theorem write_tallies (s : Session) (chunk : Chunk) :
    (s.write chunk).Tallies s.summary [] [] := by
  obtain ⟨sink, -, hw | ⟨-, hw⟩⟩ := write_cases s chunk <;> rw [hw] <;>
    exact .of_summary rfl fun _ => rfl

/-- Beginning the file counts nothing. -/
theorem begin_tallies (s : Session) : s.begin.Tallies s.summary [] [] := by
  rw [begin]
  split
  · exact .of_summary rfl fun _ => rfl
  · exact write_tallies _ _

/-- Closing a package counts nothing. -/
theorem closePackage_tallies (s : Session) : s.closePackage.Tallies s.summary [] [] := by
  rw [closePackage.eq_def]
  split
  · exact .of_summary rfl fun _ => rfl
  · exact write_tallies _ _

/-- A package is told of and counted once. -/
theorem openPackage_tallies (s : Session) (name : String) :
    (s.openPackage name).Tallies s.summary [.namespaces] [.namespaces] := by
  have henter (t : Session) : (Outcome.done (t.enter name)).Tallies t.summary [] [.namespaces] :=
    ⟨fun _ => rfl, fun _ c => by cases c <;> rfl, fun h => absurd rfl h⟩
  refine (begin_tallies s).andThen ((closePackage_tallies _).andThen ?_)
  exact (report_tallies _ (.openingPackage name)).andThen ((write_tallies _ _).andThen (henter _))

/-- A likely mistake tells of nothing that is counted. -/
theorem filterMap_counter?_findings (s : Session) (m : Message) :
    (s.findings m).filterMap Notice.counter? = [] := by
  rw [List.filterMap_eq_nil_iff]
  intro n hn
  have hlint := findings_isLint s m n hn
  cases n <;> simp_all [Notice.isLint, Notice.counter?]

/-- Examining a message counts nothing: likely mistakes have no counter. -/
theorem examine_tallies (s : Session) (m : Message) : (s.examine m).Tallies s.summary [] [] := by
  rw [examine]
  split
  · refine .of_summary rfl fun _ => ?_
    rw [Outcome.notices, List.filterMap_map]
    exact (congrArg _ List.filterMap_some).trans (filterMap_counter?_findings s m)
  · exact .of_summary rfl fun _ => rfl

/-- A function is told of and counted once. -/
theorem emit_tallies (s : Session) (m : Message) :
    (s.emit m).Tallies s.summary [.functions] [.functions] := by
  have hcount (t : Session) : (Outcome.done t.countFunction).Tallies t.summary [] [.functions] :=
    ⟨fun _ => rfl, fun _ c => by cases c <;> rfl, fun h => absurd rfl h⟩
  refine (begin_tallies s).andThen ((examine_tallies _ m).andThen ?_)
  exact (report_tallies _ (.generatingFunction m.name m.arity)).andThen
    ((write_tallies _ _).andThen (hcount _))

/-- Finishing the file counts nothing. -/
theorem finish_tallies (s : Session) : s.finish.Tallies s.summary [] [] :=
  (begin_tallies s).andThen ((closePackage_tallies _).andThen (write_tallies _ _))

/-- A skipped line is told of and counted once. -/
theorem skip_tallies {n : Notice} (s : Session) (hn : n.counter? = some .skipped) :
    ((s.report n).andThen fun s => .done s.countSkipped).Tallies s.summary [.skipped] [.skipped] := by
  have hcount (t : Session) : (Outcome.done t.countSkipped).Tallies t.summary [] [.skipped] :=
    ⟨fun _ => rfl, fun _ c => by cases c <;> rfl, fun h => absurd rfl h⟩
  have hreport := report_tallies s n
  rw [hn] at hreport
  exact hreport.andThen (hcount _)

/-- **What reading a line tells of and counts**: the counter of the line, if it succeeds. -/
theorem readLine_tallies (s : Session) (number : Nat) (line : String) :
    (s.readLine number line).Tallies s.summary (Line.counter? line).toList
      (Line.counter? line).toList := by
  suffices h : (s.readLine number line).Tallies s.countLine.summary (Line.counter? line).toList
      (Line.counter? line).toList from ⟨h.told, h.counted, h.failed⟩
  rw [Line.counter?_eq, readLine]
  cases Entry.ofLine line with
  | error error =>
      dsimp only
      rw [reject]
      split
      · exact ⟨by simp [Outcome.fail], by simp [Outcome.fail], fun _ _ => rfl⟩
      · exact skip_tallies s.countLine rfl
  | ok entry =>
      cases entry with
      | nothing => exact .of_summary rfl fun _ => rfl
      | package name => exact openPackage_tallies s.countLine name
      | message m => exact emit_tallies s.countLine m
      | ignored tokens => exact skip_tallies s.countLine rfl

/-- Reading a line counts one line, whether or not it succeeds. -/
theorem readLine_lines (s : Session) (number : Nat) (line : String) :
    (s.readLine number line).session.summary.lines = s.summary.lines + 1 := by
  rw [readLine]
  cases Entry.ofLine line with
  | error error =>
      dsimp only
      rw [reject]
      split <;> rfl
  | ok entry =>
      cases entry with
      | nothing => rfl
      | package name => exact (openPackage_keepsLineCounts s.countLine name).lines
      | message m => exact (emit_keepsLineCounts s.countLine m).lines
      | ignored tokens => rfl

/-! ### Calls in a row -/

/-- How much a call adds to a counter. -/
theorem readLine_get (s : Session) (number : Nat) (line : String) (c : Counter) :
    (s.readLine number line).session.summary.get c = s.summary.get c +
      if (s.readLine number line).failure.isNone && Line.counter? line == some c then 1 else 0 := by
  have htallies := readLine_tallies s number line
  cases hfailure : (s.readLine number line).failure with
  | some failure =>
      rw [htallies.failed (by simp [hfailure]) c]
      rfl
  | none =>
      rw [htallies.counted hfailure c]
      cases hcounter : Line.counter? line with
      | none => simp
      | some d => simp [List.count_singleton]

/-- After any calls, whether they succeed or fail, every line has been counted, and each counter
has grown by the number of calls that succeeded on a line of that counter. -/
theorem run_readLine_counters (s : Session) (calls : List (Nat × String)) :
    let steps := calls.map fun call => Step.readLine call.1 call.2
    (s.run steps).session.summary.lines = s.summary.lines + calls.length ∧
      ∀ c, (s.run steps).session.summary.get c = s.summary.get c +
        (calls.zip (s.outcomes false steps)).countP fun pair =>
          pair.2.failure.isNone && Line.counter? pair.1.2 == some c := by
  induction calls generalizing s with
  | nil => exact ⟨rfl, fun c => rfl⟩
  | cons call rest ih =>
      obtain ⟨number, line⟩ := call
      obtain ⟨hlines, hcounters⟩ := ih (s.readLine number line).session
      refine ⟨?_, ?_⟩
      · rw [readLine_lines] at hlines
        rw [List.length_cons, Nat.add_comm rest.length, ← Nat.add_assoc]
        exact hlines
      · intro c
        have hrest := hcounters c
        rw [readLine_get, Nat.add_assoc] at hrest
        rw [List.map_cons, outcomes, List.zip_cons_cons, List.countP_cons, Nat.add_comm (List.countP _ _)]
        exact hrest

/-! ### Files that are read to the end -/

end Session

/-- A step succeeds and accounts for texts: it counts each of them as a line, adds each to its
counter, and gives a notice for each that has one, in order. -/
structure Outcome.Accounts (o : Outcome) (before : Summary) (texts : List String) : Prop where
  failure : o.failure = none
  lines : o.session.summary.lines = before.lines + texts.length
  told : o.notices.filterMap Notice.counter? = texts.filterMap Line.counter?
  counted : ∀ c, o.session.summary.get c = before.get c + (texts.filterMap Line.counter?).count c

namespace Outcome.Accounts

/-- Steps account for their texts one after the other. -/
theorem andThen {o : Outcome} {next : Session → Outcome} {before : Summary}
    {texts texts' : List String} (h : o.Accounts before texts)
    (hn : (next o.session).Accounts o.session.summary texts') :
    (o.andThen next).Accounts before (texts ++ texts') := by
  have hsession : (o.andThen next).session = (next o.session).session := session_andThen h.failure
  refine ⟨?_, ?_, ?_, ?_⟩
  · rw [failure_andThen h.failure, hn.failure]
  · rw [hsession, hn.lines, h.lines, List.length_append, Nat.add_assoc]
  · rw [notices_andThen h.failure, List.filterMap_append, List.filterMap_append, h.told, hn.told]
  · intro c
    rw [hsession, hn.counted, h.counted, List.filterMap_append, List.count_append, Nat.add_assoc]

/-- A step that reads no line accounts for nothing, if it succeeds. -/
theorem of_tallies {o : Outcome} {s : Session} (hfailure : o.failure = none)
    (h : o.Tallies s.summary [] []) (hlines : o.KeepsLineCounts s) : o.Accounts s.summary [] :=
  ⟨hfailure, hlines.lines, h.told hfailure, h.counted hfailure⟩

/-- A step that reads no line adds nothing to what was accounted for before it. -/
theorem andThen_idle {o : Outcome} {next : Session → Outcome} {before : Summary}
    {texts : List String} (h : o.Accounts before texts) (hfailure : (next o.session).failure = none)
    (htallies : (next o.session).Tallies o.session.summary [] [])
    (hlines : (next o.session).KeepsLineCounts o.session) :
    (o.andThen next).Accounts before texts := by
  have hnext := h.andThen (of_tallies hfailure htallies hlines)
  rwa [List.append_nil] at hnext

end Outcome.Accounts

namespace Session

/-- A line whose reading succeeds is accounted for. -/
theorem readLine_accounts {s : Session} {number : Nat} {line : String}
    (h : (s.readLine number line).failure = none) :
    (s.readLine number line).Accounts s.summary [line] := by
  have htallies := readLine_tallies s number line
  have hcounter : [line].filterMap Line.counter? = (Line.counter? line).toList := by
    cases hline : Line.counter? line <;> simp [hline]
  refine ⟨h, readLine_lines s number line, ?_, ?_⟩
  · rw [hcounter, htallies.told h]
  · rw [hcounter]
    exact htallies.counted h

/-- Lines whose reading succeeds are text, and are accounted for. -/
theorem readLines_accounts {s : Session} {number : Nat} {lines : List Bytes}
    (h : (s.readLines number lines).failure = none) :
    ∃ texts, lines.map Utf8.decode? = texts.map some ∧
      (s.readLines number lines).Accounts s.summary texts := by
  induction lines generalizing s number with
  | nil => exact ⟨[], rfl, rfl, rfl, rfl, fun c => rfl⟩
  | cons raw rest ih =>
      rw [readLines] at h ⊢
      cases hraw : Utf8.decode? raw with
      | none =>
          rw [hraw] at h
          exact absurd h (by simp [Outcome.fail])
      | some line =>
          rw [hraw] at h
          obtain ⟨hfirst, hrest⟩ := Outcome.succeeds_of_andThen h
          obtain ⟨texts, htexts, haccounts⟩ := ih hrest
          refine ⟨line :: texts, ?_, (readLine_accounts hfirst).andThen haccounts⟩
          rw [List.map_cons, List.map_cons, hraw, htexts]

/-- A file that is read to its end is accounted for. -/
theorem readDefinitions_accounts {s : Session} {bytes : Bytes}
    (h : (s.readDefinitions (.ok bytes)).failure = none) :
    ∃ texts, (Line.split bytes).map Utf8.decode? = texts.map some ∧
      (s.readDefinitions (.ok bytes)).Accounts s.summary texts := by
  obtain ⟨hbegin, hrest⟩ := Outcome.succeeds_of_andThen h
  obtain ⟨hread, hclose⟩ := Outcome.succeeds_of_andThen hrest
  obtain ⟨texts, htexts, haccounts⟩ := readLines_accounts hread
  have hfirst := Outcome.Accounts.of_tallies hbegin (begin_tallies s) (begin_keepsLineCounts s)
  refine ⟨texts, htexts, hfirst.andThen ?_⟩
  exact haccounts.andThen_idle hclose (closePackage_tallies _) (closePackage_keepsLineCounts _)

end Session

/-- A compilation that succeeds has accounted for the lines of its file. -/
theorem compile_accounts {admission : Admission} {options : Options} {output : Option Path}
    {bytes : Bytes} (h : (compile admission options output (.ok bytes)).failure = none) :
    ∃ texts, (Line.split bytes).map Utf8.decode? = texts.map some ∧
      (compile admission options output (.ok bytes)).Accounts {} texts := by
  obtain ⟨-, hprocess⟩ := Outcome.succeeds_of_andThen h
  obtain ⟨hread, hfinish⟩ := Outcome.succeeds_of_andThen hprocess
  obtain ⟨texts, htexts, haccounts⟩ := Session.readDefinitions_accounts hread
  let s := Session.start (Layout.select options output) options admission
  have hfirst : (s.report (.targetSelected s.layout.target)).Accounts {} [] :=
    .of_tallies rfl (Session.report_tallies s _) (Session.report_keepsLineCounts s _)
  have hlast : ((s.readDefinitions (.ok bytes)).andThen Session.finish).Accounts {} texts :=
    haccounts.andThen_idle hfinish (Session.finish_tallies _) (Session.finish_keepsLineCounts _)
  have hwhole : ((s.report (.targetSelected s.layout.target)).andThen fun t =>
      (t.readDefinitions (.ok bytes)).andThen Session.finish).Accounts {} texts :=
    hfirst.andThen hlast
  exact ⟨texts, htexts, hwhole⟩

/-! ### The main result -/

/-- Every counter that is told of is one of the three. -/
theorem Counter.length_eq (counters : List Counter) :
    counters.length =
      counters.count .namespaces + counters.count .functions + counters.count .skipped := by
  induction counters with
  | nil => rfl
  | cons c rest ih => cases c <;> simp [ih] <;> omega

/-- A line is blank or a comment, or it has a counter. -/
theorem Line.length_eq_silent_add (texts : List String) :
    texts.length =
      texts.countP (fun text => isSilent text.toList) + (texts.filterMap counter?).length := by
  induction texts with
  | nil => rfl
  | cons text rest ih =>
      have hsilent := counter?_eq_none_iff text
      cases hcounter : counter? text with
      | none => simp [hcounter, hsilent.mp hcounter, ih]; omega
      | some c => simp_all; omega

/-- **Every line is accounted for exactly once, and the counters agree with the notices.**

* From every session, whatever its sink refuses, reading a line counts one line. If it succeeds
  and the line is neither blank nor a comment, it adds one to the counter of the line and
  nothing to the others; in any other case it adds nothing to any of the three.
* After any calls in a row, lines have grown by the number of calls, and each counter by the
  number of calls that succeeded on a line of that counter.
* After a compilation that succeeds, lines are the lines of the file, and each of them is blank
  or a comment, or one of the packages, functions and skipped lines. Each counter is the number
  of notices that tell of it. -/
theorem lines_accounted :
    (∀ (s : Session) (number : Nat) (line : String),
      let o := s.readLine number line
      o.session.summary.lines = s.summary.lines + 1 ∧
      (o.failure = none ∧ Line.isSilent line.toList = false →
        ∃ c, Line.counter? line = some c ∧
          ∀ c', o.session.summary.get c' = s.summary.get c' + if c' = c then 1 else 0) ∧
      (¬ (o.failure = none ∧ Line.isSilent line.toList = false) →
        ∀ c, o.session.summary.get c = s.summary.get c)) ∧
    (∀ (s : Session) (calls : List (Nat × String)),
      let steps := calls.map fun call => Step.readLine call.1 call.2
      (s.run steps).session.summary.lines = s.summary.lines + calls.length ∧
        ∀ c, (s.run steps).session.summary.get c = s.summary.get c +
          (calls.zip (s.outcomes false steps)).countP fun pair =>
            pair.2.failure.isNone && Line.counter? pair.1.2 == some c) ∧
    ∀ (admission : Admission) (options : Options) (output : Option Path) (bytes : Bytes),
      let o := compile admission options output (.ok bytes)
      let v := o.session.summary
      o.failure = none →
        ∃ texts : List String, (Line.split bytes).map Utf8.decode? = texts.map some ∧
          v.lines = (Line.split bytes).length ∧
          v.lines = texts.countP (fun text => Line.isSilent text.toList) +
            v.namespaces + v.functions + v.skipped ∧
          ∀ c, v.get c = o.notices.countP fun n => n.counter? == some c := by
  refine ⟨?_, Session.run_readLine_counters, ?_⟩
  · intro s number line o
    have htallies := Session.readLine_tallies s number line
    have hsilent := Line.counter?_eq_none_iff line
    refine ⟨Session.readLine_lines s number line, ?_, ?_⟩
    · rintro ⟨hfailure, hspeaks⟩
      cases hcounter : Line.counter? line with
      | none => simp_all
      | some c =>
          refine ⟨c, rfl, ?_⟩
          intro c'
          rw [htallies.counted hfailure, hcounter, Option.toList_some, List.count_singleton]
          simp only [beq_iff_eq, @eq_comm _ c c']
    · intro hnot c
      by_cases hfailure : o.failure = none
      · have hcounter : Line.counter? line = none := by
          rw [hsilent]
          simpa [hfailure] using hnot
        rw [htallies.counted hfailure, hcounter]
        rfl
      · exact htallies.failed hfailure c
  · intro admission options output bytes o v hfailure
    obtain ⟨texts, htexts, haccounts⟩ := compile_accounts hfailure
    have hlength : (Line.split bytes).length = texts.length := by
      simpa using congrArg List.length htexts
    have hlines : v.lines = texts.length := by
      simpa using haccounts.lines
    have hget (c : Counter) : v.get c = (texts.filterMap Line.counter?).count c := by
      have hcounted := haccounts.counted c
      have hzero : Summary.get {} c = 0 := by cases c <;> rfl
      rwa [hzero, Nat.zero_add] at hcounted
    refine ⟨texts, htexts, by rw [hlines, hlength], ?_, ?_⟩
    · have hsum := Counter.length_eq (texts.filterMap Line.counter?)
      rw [← hget, ← hget, ← hget] at hsum
      rw [hlines, Line.length_eq_silent_add, hsum]
      simp only [Summary.get]
      omega
    · intro c
      rw [hget, ← haccounts.told, List.count_filterMap]

/-- A session that reads a line with success, one that refuses a malformed line because its
options are strict, and a compilation of a file with lines of every kind. -/
theorem lines_accounted_every_kind :
    let s := Session.start .rustModule { strict := true } (.upTo 200)
    let text := "# a \"\n\npackage p\nm x\nn \"\x7b\"\na b c\nq \"\npackage\n"
    let o := compile (.upTo 400) {} none (.ok (Utf8.encode text))
    ((s.readLine 7 "m x").failure = none ∧ Line.isSilent "m x".toList = false ∧
      ∃ c, Line.counter? "m x" = some c ∧
        ∀ c', (s.readLine 7 "m x").session.summary.get c' =
          s.summary.get c' + if c' = c then 1 else 0) ∧
    (¬ ((s.readLine 7 "q \"").failure = none ∧ Line.isSilent "q \"".toList = false) ∧
      ∀ c, (s.readLine 7 "q \"").session.summary.get c = s.summary.get c) ∧
    o.failure = none ∧ o.session.summary.lines = (Line.split (Utf8.encode text)).length ∧
      ∀ c, o.session.summary.get c = o.notices.countP fun n => n.counter? == some c := by
  intro s text o
  obtain ⟨hline, -, hcompile⟩ := lines_accounted
  have hwritten : (s.readLine 7 "m x").failure = none ∧ Line.isSilent "m x".toList = false := by
    decide +kernel
  have hrefused : ¬ ((s.readLine 7 "q \"").failure = none ∧ Line.isSilent "q \"".toList = false) := by
    decide +kernel
  have hsucceeds : o.failure = none := by decide +kernel
  obtain ⟨texts, -, hlines, -, hcounters⟩ := hcompile (.upTo 400) {} none (Utf8.encode text) hsucceeds
  exact ⟨⟨hwritten.1, hwritten.2, (hline s 7 "m x").2.1 hwritten⟩,
    ⟨hrefused, (hline s 7 "q \"").2.2 hrefused⟩, hsucceeds, hlines, hcounters⟩

end Phrasebook
