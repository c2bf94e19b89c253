import Phrasebook.Proofs.Session.Coupling

/-!
# What a session remembers of messages

A session that examines messages remembers the name of each one together with the package that
was open. What it remembers outlives the package, the block and the write: packages are closed
and opened again, and the function of a message may be refused after the message has been
examined. This module relates what is remembered to the whole history of a run.

The history is a list of *attempts*, one for each time that the function of a message was to be
written, with the session that met it (`Session.attempts`). Attempts are made by steps of their own
and by the lines of files. An attempt *reaches* the examination unless the beginning of the file,
which comes first, is refused. A session *knows* a history if what it remembers is what the
attempts of the history that reached their examination were about (`Session.Knows`).

Every step goes on with the history: it makes some attempts, each in a session that knows what
came before it, it leaves a session that knows these as well, and its notices about messages are
those of its attempts (`Outcome.Records`).

## Main results

* `emit_records`, `readLine_records`, `readLines_records`, `readDefinitions_records`: how the steps
  go on with the history.
* `run_records`: every run goes on with the history, whatever its steps are and wherever they fail.
-/

namespace Phrasebook

/-- An attempt to write the function of a message, in the session that meets it. -/
structure Attempt where
  session : Session
  message : Message

/-- A message, and the package that is open where it is defined. -/
structure Definition where
  scope : Option String
  message : Message
  deriving DecidableEq, Repr

namespace Attempt

/-- What an attempt leads to. -/
def outcome (a : Attempt) : Outcome :=
  a.session.emit a.message

/-- Whether an attempt reaches the examination of its message: the beginning of the file comes
first, and may be refused. -/
def reaches (a : Attempt) : Bool :=
  a.session.begin.failure.isNone

/-- What an attempt is about. -/
def definition (a : Attempt) : Definition :=
  ⟨a.session.scope, a.message⟩

end Attempt

/-- Whether a notice is about a message: about a likely mistake of it, or about its function. -/
def Notice.concernsMessage : Notice → Bool
  | .generatingFunction _ _ => true
  | n => n.isLint

/-- What an outcome reports about messages. -/
def Outcome.remarks (o : Outcome) : List Notice :=
  o.notices.filter Notice.concernsMessage

/-- The attempts that follow a step, unless the step fails. -/
def Outcome.attempts (o : Outcome) (later : Session → List Attempt) : List Attempt :=
  match o.failure with
  | some _ => []
  | none => later o.session

namespace Session

/-- The attempts that a line leads to. -/
def attemptsOfLine (s : Session) (line : String) : List Attempt :=
  match Entry.ofLine line with
  | .ok (.message m) => [⟨s.countLine, m⟩]
  | _ => []

/-- The attempts that lines lead to, up to the first one whose reading fails. -/
def attemptsOfLines (s : Session) (number : Nat) : List Bytes → List Attempt
  | [] => []
  | raw :: rest =>
    match Utf8.decode? raw with
    | none => []
    | some line =>
      s.attemptsOfLine line ++
        (s.readLine number line).attempts fun s => s.attemptsOfLines (number + 1) rest

/-- The attempts that a step leads to. -/
def attemptsOf (s : Session) : Step → List Attempt
  | .emit m => [⟨s, m⟩]
  | .readLine _ line => s.attemptsOfLine line
  | .readDefinitions (.ok bytes) => s.begin.attempts fun s => s.attemptsOfLines 1 (Line.split bytes)
  | _ => []

/-- The attempts that the steps of a run lead to. -/
def attempts (s : Session) : List Step → List Attempt
  | [] => []
  | step :: rest => s.attemptsOf step ++ (s.perform step).session.attempts rest

/-- A session that examines messages knows a history: it remembers a name in a scope exactly if an
attempt of the history reached the examination of a message of that name in that scope. -/
structure Knows (s : Session) (past : List Attempt) : Prop where
  lint : s.options.lint = true
  mem_defined_iff : ∀ scope name, (scope, name) ∈ s.defined ↔
    ∃ a ∈ past, a.reaches = true ∧ a.session.scope = scope ∧ a.message.name = name

/-- What a session knows depends on its options and on what it remembers. -/
theorem Knows.of_eq {s t : Session} {past : List Attempt} (h : s.Knows past)
    (hoptions : t.options = s.options) (hdefined : t.defined = s.defined) : t.Knows past :=
  ⟨hoptions ▸ h.lint, hdefined ▸ h.mem_defined_iff⟩

end Session

/-! ### Steps that are not about messages -/

/-- A step neither examines a message nor reports anything about one. -/
structure Outcome.Unconcerned (o : Outcome) (s : Session) : Prop where
  options : o.session.options = s.options
  defined : o.session.defined = s.defined
  remarks : o.remarks = []

namespace Outcome

/-- What two steps report about messages, the first of which succeeds. -/
theorem remarks_andThen {o : Outcome} {next : Session → Outcome} (h : o.failure = none) :
    (o.andThen next).remarks = o.remarks ++ (next o.session).remarks := by
  rw [remarks, notices_andThen h, List.filter_append]
  rfl

/-- What two steps report about messages, whether or not the first one fails. -/
theorem remarks_regardless (o : Outcome) (next : Session → Outcome) :
    (o.regardless next).remarks = o.remarks ++ (next o.session).remarks := by
  rw [remarks, notices, regardless, List.filterMap_append, List.filter_append]
  rfl

/-- Two steps that are not about messages are not so in turn either. -/
theorem Unconcerned.andThen {o : Outcome} {s : Session} {next : Session → Outcome}
    (h : o.Unconcerned s) (hn : (next o.session).Unconcerned o.session) :
    (o.andThen next).Unconcerned s := by
  cases ho : o.failure with
  | some failure => rwa [andThen_of_failure next ho]
  | none =>
      refine ⟨?_, ?_, ?_⟩
      · rw [session_andThen ho, hn.options, h.options]
      · rw [session_andThen ho, hn.defined, h.defined]
      · rw [remarks_andThen ho, h.remarks, hn.remarks, List.append_nil]

end Outcome

namespace Session

/-- Writing a chunk is not about messages. -/
theorem write_unconcerned (s : Session) (chunk : Chunk) : (s.write chunk).Unconcerned s := by
  obtain ⟨sink, -, hw | ⟨-, hw⟩⟩ := write_cases s chunk <;> rw [hw] <;> exact ⟨rfl, rfl, rfl⟩

/-- Reporting a notice is about messages only if the notice is. -/
theorem report_unconcerned {n : Notice} (s : Session) (hn : n.concernsMessage = false) :
    (s.report n).Unconcerned s :=
  ⟨rfl, rfl, List.filter_cons_of_neg (Bool.not_eq_true _ ▸ hn)⟩

/-- Beginning the file is not about messages. -/
theorem begin_unconcerned (s : Session) : s.begin.Unconcerned s := by
  rw [begin]
  split
  · exact ⟨rfl, rfl, rfl⟩
  · obtain ⟨hoptions, hdefined, hremarks⟩ := write_unconcerned { s with started := true } .preamble
    exact ⟨hoptions, hdefined, hremarks⟩

/-- Closing a package is not about messages. -/
theorem closePackage_unconcerned (s : Session) : s.closePackage.Unconcerned s := by
  rw [closePackage.eq_def]
  split
  · exact ⟨rfl, rfl, rfl⟩
  next name _ =>
    obtain ⟨hoptions, hdefined, hremarks⟩ :=
      write_unconcerned { s with scope := none } (.closing name)
    exact ⟨hoptions, hdefined, hremarks⟩

/-- Opening a package is not about messages: its notice tells of the package. -/
theorem openPackage_unconcerned (s : Session) (name : String) :
    (s.openPackage name).Unconcerned s :=
  (begin_unconcerned s).andThen <| (closePackage_unconcerned _).andThen <|
    (report_unconcerned _ rfl).andThen <| (write_unconcerned _ _).andThen ⟨rfl, rfl, rfl⟩

/-- Finishing the file is not about messages. -/
theorem finish_unconcerned (s : Session) : s.finish.Unconcerned s :=
  (begin_unconcerned s).andThen <| (closePackage_unconcerned _).andThen (write_unconcerned _ _)

/-- Skipping a line is not about messages, unless its notice is. -/
theorem skip_unconcerned {n : Notice} (s : Session) (hn : n.concernsMessage = false) :
    ((s.report n).andThen fun s => .done s.countSkipped).Unconcerned s :=
  (report_unconcerned s hn).andThen ⟨rfl, rfl, rfl⟩

/-- Rejecting a line is not about messages, whether it fails or is passed over. -/
theorem reject_unconcerned (s : Session) (number : Nat) (error : Malformed) :
    (s.reject number error).Unconcerned s := by
  rw [reject]
  split
  · exact ⟨rfl, rfl, rfl⟩
  · exact skip_unconcerned s rfl

/-! ### Attempts -/

/-- What is found depends on what is remembered and on the package that is open. -/
theorem findings_congr {s t : Session} (hdefined : t.defined = s.defined)
    (hscope : t.scope = s.scope) (m : Message) : t.findings m = s.findings m := by
  rw [findings, findings, hdefined, hscope]

/-- Findings are about messages. -/
theorem filter_findings (s : Session) (m : Message) :
    (s.findings m).filter Notice.concernsMessage = s.findings m := by
  rw [List.filter_eq_self]
  intro n hn
  have hlint := findings_isLint s m n hn
  cases n <;> simp_all [Notice.isLint, Notice.concernsMessage]

/-- An examination reports its findings and remembers the message. -/
theorem examine_of_lint {s : Session} (h : s.options.lint = true) (m : Message) :
    s.examine m =
      { session := { s with defined := s.defined.insert (s.scope, m.name) }
        trace := (s.findings m).map .notice } :=
  if_pos h

/-- What notices say about messages, if nothing else is done. -/
theorem remarks_notices (s : Session) (ns : List Notice) :
    ({ session := s, trace := ns.map .notice } : Outcome).remarks =
      ns.filter Notice.concernsMessage := by
  rw [Outcome.remarks, Outcome.notices, List.filterMap_map]
  exact congrArg _ List.filterMap_some

/-- An attempt that does not reach the examination ends with the beginning of the file. -/
theorem emit_of_begin_fails {s : Session} {failure : Failure} (m : Message)
    (h : s.begin.failure = some failure) : s.emit m = s.begin :=
  Outcome.andThen_of_failure _ h

/-- An attempt that reaches the examination reports what is found, and then the function, and
leaves the message remembered, whether or not its function is refused: writing and counting a
function are not about messages. -/
theorem emit_of_begin_succeeds {s : Session} (m : Message) (hlint : s.options.lint = true)
    (h : s.begin.failure = none) :
    (s.emit m).remarks = s.findings m ++ [.generatingFunction m.name m.arity] ∧
      (s.emit m).session.options = s.options ∧
      (s.emit m).session.defined = s.defined.insert (s.scope, m.name) := by
  obtain ⟨hoptions, hdefined, hremarks⟩ := begin_unconcerned s
  have hscope := begin_scope s
  have hfindings := findings_congr hdefined hscope m
  rw [emit, Outcome.remarks_andThen h, Outcome.session_andThen h, hremarks]
  generalize s.begin.session = t at hoptions hdefined hscope hfindings ⊢
  rw [examine_of_lint (hoptions ▸ hlint), Outcome.remarks_andThen rfl, Outcome.session_andThen rfl,
    Outcome.remarks_andThen rfl, Outcome.session_andThen rfl, remarks_notices, filter_findings,
    hfindings, hdefined, hscope]
  have hwrite (u : Session) :
      ((u.write (.function m)).andThen fun s => .done s.countFunction).Unconcerned u :=
    (write_unconcerned u _).andThen ⟨rfl, rfl, rfl⟩
  refine ⟨?_, ?_, ?_⟩
  · rw [(hwrite _).remarks]
    rfl
  · rw [(hwrite _).options]
    exact hoptions
  · rw [(hwrite _).defined]
    rfl

end Session

/-! ### Going on with a history -/

/-- A step goes on with a history by attempts: each of them is made in a session that knows what
came before it, the session after the step knows all of them, and what the step reports about
messages is what they report. -/
structure Outcome.Records (o : Outcome) (past new : List Attempt) : Prop where
  known : ∀ before a after, new = before ++ a :: after → a.session.Knows (past ++ before)
  knows : o.session.Knows (past ++ new)
  remarks : o.remarks = new.flatMap fun a => a.outcome.remarks

namespace Outcome

/-- A step that does not concern messages makes no attempt. -/
theorem Unconcerned.records {o : Outcome} {s : Session} {past : List Attempt}
    (h : o.Unconcerned s) (hs : s.Knows past) : o.Records past [] := by
  refine ⟨?_, ?_, h.remarks⟩
  · intro before a after hsplit
    simp at hsplit
  · rw [List.append_nil]
    exact hs.of_eq h.options h.defined

/-- Steps go on with a history one after the other, also after one that fails. -/
theorem Records.regardless {o : Outcome} {next : Session → Outcome} {past new later : List Attempt}
    (ho : o.Records past new) (hn : (next o.session).Records (past ++ new) later) :
    (o.regardless next).Records past (new ++ later) := by
  refine ⟨?_, ?_, ?_⟩
  · intro before a after hsplit
    obtain ⟨first, rfl, hlater⟩ | ⟨rest, hnew, hrest⟩ := List.append_eq_append_iff.mp hsplit
    · rw [← List.append_assoc]
      exact hn.known first a after hlater
    · cases rest with
      | nil =>
          rw [List.append_nil] at hnew
          have hknown := hn.known [] a after hrest.symm
          rwa [List.append_nil, hnew] at hknown
      | cons b rest =>
          obtain ⟨rfl, -⟩ := List.cons_eq_cons.mp hrest
          exact ho.known before a rest hnew
  · rw [← List.append_assoc]
    exact hn.knows
  · rw [remarks_regardless, ho.remarks, hn.remarks, List.flatMap_append]

/-- Steps go on with a history one after the other, up to one that fails. -/
theorem Records.andThen {o : Outcome} {next : Session → Outcome} {past new : List Attempt}
    {later : Session → List Attempt} (ho : o.Records past new)
    (hn : (next o.session).Records (past ++ new) (later o.session)) :
    (o.andThen next).Records past (new ++ o.attempts later) := by
  cases hfailure : o.failure with
  | some failure =>
      rw [andThen_of_failure next hfailure, attempts, hfailure, List.append_nil]
      exact ho
  | none =>
      have hboth : o.andThen next = o.regardless next := by
        rw [Outcome.andThen, hfailure]
        rfl
      rw [hboth, attempts, hfailure]
      exact ho.regardless hn

/-- A step that does not concern messages may come before. -/
theorem Unconcerned.andThen_records {o : Outcome} {s : Session} {next : Session → Outcome}
    {past : List Attempt} {later : Session → List Attempt} (h : o.Unconcerned s)
    (hs : s.Knows past) (hn : ∀ t : Session, t.Knows past → (next t).Records past (later t)) :
    (o.andThen next).Records past (o.attempts later) := by
  have hknows : o.session.Knows past := hs.of_eq h.options h.defined
  refine (h.records hs).andThen ?_
  rw [List.append_nil]
  exact hn _ hknows

/-- A step that does not concern messages may come after. -/
theorem Records.andThen_unconcerned {o : Outcome} {next : Session → Outcome}
    {past new : List Attempt} (ho : o.Records past new)
    (hn : (next o.session).Unconcerned o.session) : (o.andThen next).Records past new := by
  have hidle : (o.attempts fun _ => []) = [] := by
    rw [attempts]
    split <;> rfl
  have hboth : (o.andThen next).Records past (new ++ o.attempts fun _ => []) :=
    ho.andThen (hn.records ho.knows)
  rwa [hidle, List.append_nil] at hboth

end Outcome

namespace Session

variable {s : Session} {past : List Attempt}

/-- A new session knows the empty history, if it examines messages. -/
theorem start_knows {options : Options} (layout : Layout) (admission : Admission)
    (h : options.lint = true) : (start layout options admission).Knows [] :=
  ⟨h, fun scope name => by simp [start]⟩

/-- **An attempt is remembered** exactly if it reaches the examination. -/
theorem emit_records (hs : s.Knows past) (m : Message) : (s.emit m).Records past [⟨s, m⟩] := by
  refine ⟨?_, ?_, (List.flatMap_singleton _ _).symm⟩
  · intro before a after hsplit
    obtain ⟨rfl, rfl, rfl⟩ | ⟨_, -, hnil⟩ := List.cons_eq_append_iff.mp hsplit
    · rwa [List.append_nil]
    · simp at hnil
  · cases hbegin : s.begin.failure with
    | some failure =>
        have hreaches : (Attempt.mk s m).reaches = false := by
          rw [Attempt.reaches, hbegin]
          rfl
        rw [emit_of_begin_fails m hbegin]
        refine ⟨(begin_unconcerned s).options ▸ hs.lint, ?_⟩
        intro scope name
        rw [(begin_unconcerned s).defined, hs.mem_defined_iff]
        simp [or_and_right, exists_or, hreaches]
    | none =>
        have hreaches : (Attempt.mk s m).reaches = true := by
          rw [Attempt.reaches, hbegin]
          rfl
        obtain ⟨-, hoptions, hdefined⟩ := emit_of_begin_succeeds m hs.lint hbegin
        refine ⟨hoptions ▸ hs.lint, ?_⟩
        intro scope name
        rw [hdefined, List.mem_insert_iff, hs.mem_defined_iff, Prod.mk.injEq, or_comm,
          @eq_comm _ scope, @eq_comm _ name]
        simp [or_and_right, exists_or, hreaches]

/-- Counting a line does not change what is known. -/
theorem Knows.countLine (hs : s.Knows past) : s.countLine.Knows past :=
  ⟨hs.lint, hs.mem_defined_iff⟩

/-- A line goes on with the history if it defines a message. -/
theorem readLine_records (hs : s.Knows past) (number : Nat) (line : String) :
    (s.readLine number line).Records past (s.attemptsOfLine line) := by
  have hcount := hs.countLine
  rw [readLine, attemptsOfLine]
  cases Entry.ofLine line with
  | error error => exact (reject_unconcerned s.countLine number error).records hcount
  | ok entry =>
      cases entry with
      | nothing => exact Outcome.Unconcerned.records ⟨rfl, rfl, rfl⟩ hcount
      | package name => exact (openPackage_unconcerned s.countLine name).records hcount
      | message m => exact emit_records hcount m
      | ignored tokens => exact (skip_unconcerned s.countLine rfl).records hcount

/-- Lines go on with the history one after the other. -/
theorem readLines_records (hs : s.Knows past) (number : Nat) (lines : List Bytes) :
    (s.readLines number lines).Records past (s.attemptsOfLines number lines) := by
  induction lines generalizing s past number with
  | nil => exact Outcome.Unconcerned.records ⟨rfl, rfl, rfl⟩ hs
  | cons raw rest ih =>
      rw [readLines, attemptsOfLines]
      cases Utf8.decode? raw with
      | none => exact Outcome.Unconcerned.records ⟨rfl, rfl, rfl⟩ hs
      | some line =>
          have hline := readLine_records hs number line
          exact hline.andThen (ih hline.knows (number + 1))

/-- A file goes on with the history by its lines. -/
theorem readDefinitions_records (hs : s.Knows past) (source : Except AccessError Bytes) :
    (s.readDefinitions source).Records past (s.attemptsOf (.readDefinitions source)) := by
  cases source with
  | error error =>
      refine ((begin_unconcerned s).andThen ?_).records hs
      rw [readSource, Outcome.andThen_fail]
      exact ⟨rfl, rfl, rfl⟩
  | ok bytes =>
      rw [readDefinitions, attemptsOf]
      refine (begin_unconcerned s).andThen_records hs fun t ht => ?_
      exact (readLines_records ht 1 _).andThen_unconcerned (closePackage_unconcerned _)

/-- Every step goes on with the history. -/
theorem perform_records (hs : s.Knows past) (step : Step) :
    (s.perform step).Records past (s.attemptsOf step) := by
  cases step with
  | begin => exact (begin_unconcerned s).records hs
  | openPackage name => exact (openPackage_unconcerned s name).records hs
  | closePackage => exact (closePackage_unconcerned s).records hs
  | emit m => exact emit_records hs m
  | readLine number line => exact readLine_records hs number line
  | readDefinitions source => exact readDefinitions_records hs source

/-- **Every run goes on with the history**, whatever its steps are and wherever they fail. -/
theorem run_records (hs : s.Knows past) (steps : List Step) :
    (s.run steps).Records past (s.attempts steps) := by
  induction steps generalizing s past with
  | nil => exact Outcome.Unconcerned.records ⟨rfl, rfl, rfl⟩ hs
  | cons step rest ih =>
      have hstep := perform_records hs step
      exact hstep.regardless (ih hstep.knows)

/-- What the steps of a run report about messages. Finishing reports nothing about them. -/
theorem flatMap_remarks_outcomes (s : Session) (finishing : Bool) (steps : List Step) :
    (s.outcomes finishing steps).flatMap Outcome.remarks = (s.run steps).remarks := by
  induction steps generalizing s with
  | nil =>
      cases finishing with
      | false => rfl
      | true => exact (List.flatMap_singleton _ _).trans (finish_unconcerned s).remarks
  | cons step rest ih =>
      rw [outcomes, List.flatMap_cons, ih, run, Outcome.remarks_regardless]

end Session

end Phrasebook
