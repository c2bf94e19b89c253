import Phrasebook.Proofs.Session.Renumbering
import Phrasebook.Proofs.Success

/-!
# Files compose at package boundaries

Take two definition files, the first of which consists of whole lines, and let the second one
open a package before it defines anything. Reading the two one after the other is the same as
reading the file that they make together, except that the lines of the second file have other
numbers there.

The two ways differ in when the last package of the first file is closed. If the files are read
one by one, it is closed at the end of the first one. If they are read as one, it stays open
while lines that contribute nothing are read, and is closed by the next package line, or by the
end of the file. Neither the lines in between nor what is remembered of messages depend on the
package that is open, so the closing can be moved over these lines (`readLine_closed`). It does
not show in the notices, and among the chunks it keeps its place.

## Main results

* `readLines_closed`: closing a package before or after lines that do not yet define anything.
* `readDefinitions_append`: reading two files in turn, and as one.
* `items_append`: the items of two files make up those of the two together.
* `files_compose`: both, with what it means for compilations.
-/

namespace Phrasebook

/-- A notice about a line that stands further down. -/
def Notice.shift (offset : Nat) : Notice → Notice
  | .lineIgnored line tokens => .lineIgnored (line + offset) tokens
  | .lineSkipped line error => .lineSkipped (line + offset) error
  | n => n

/-- What lines contribute, in order. -/
def Line.contributions (lines : List Bytes) : List Reference.Effective :=
  lines.filterMap fun raw => (Utf8.decode? raw).bind Reference.effective?

/-- The first line that contributes anything, if there is one, opens a package. -/
def Line.LeadWithPackage (lines : List Bytes) : Prop :=
  ∀ m, (contributions lines).head? ≠ some (.message m)

/-- What is reported about a line that contributes nothing. -/
def Line.remarks (number : Nat) (line : String) : List Notice :=
  match Entry.ofLine line with
  | .error error => [.lineSkipped number error]
  | .ok (.ignored tokens) => [.lineIgnored number tokens]
  | .ok _ => []

/-- Both runs succeed, with the same session and the same chunks, and the notices of the second one
are those of the first one up to a change. -/
structure Outcome.Agrees (change : Notice → Notice) (o p : Outcome) : Prop where
  succeeds : o.failure = none
  succeeds' : p.failure = none
  session : p.session = o.session
  chunks : p.chunks = o.chunks
  notices : p.notices = o.notices.map change

/-- A run did what two runs did in turn, and ended as the second one of them, but the lines of the
second one stood further down. -/
structure Outcome.Joins (offset : Nat) (p o o' : Outcome) : Prop where
  succeeds : p.failure = none
  session : p.session = o'.session
  chunks : p.chunks = o.chunks ++ o'.chunks
  written : p.written = o.written ++ o'.written
  notices : p.notices = o.notices ++ o'.notices.map (Notice.shift offset)

namespace Outcome

/-- A step after which nothing is done. -/
theorem andThen_done_right (o : Outcome) : o.andThen done = o := by
  rw [andThen]
  split
  · rfl
  next h =>
    obtain ⟨session, trace, failure⟩ := o
    obtain rfl : failure = none := h
    simp [done]

/-- What was written follows from the chunks, because they are spelled in one layout. -/
theorem Joins.of_chunks {offset : Nat} {p o o' : Outcome} (succeeds : p.failure = none)
    (session : p.session = o'.session) (chunks : p.chunks = o.chunks ++ o'.chunks)
    (layout : o'.session.layout = o.session.layout)
    (notices : p.notices = o.notices ++ o'.notices.map (Notice.shift offset)) :
    p.Joins offset o o' := by
  refine ⟨succeeds, session, chunks, ?_, notices⟩
  rw [Outcome.written, Outcome.written, Outcome.written, chunks, session, layout,
    List.map_append, String.join_append]

namespace Agrees

variable {change change' : Notice → Notice} {o p q : Outcome}

/-- A step without notices agrees with itself, whatever the change. -/
theorem of_silent (h : o.failure = none) (hnotices : o.notices = []) : o.Agrees change o :=
  ⟨h, h, rfl, rfl, by rw [hnotices]; rfl⟩

/-- Agreement carries over from run to run, with one change of the notices after the other. -/
theorem trans (h : o.Agrees change p) (h' : p.Agrees change' q) : o.Agrees (change' ∘ change) q :=
  ⟨h.succeeds, h'.succeeds', h'.session.trans h.session, h'.chunks.trans h.chunks,
    by rw [h'.notices, h.notices, List.map_map]⟩

/-- Runs that agree go on together. -/
theorem andThen {next next' : Session → Outcome} (h : o.Agrees change p)
    (hn : (next o.session).Agrees change (next' o.session)) :
    (o.andThen next).Agrees change (p.andThen next') := by
  refine ⟨?_, ?_, ?_, ?_, ?_⟩
  · rw [failure_andThen h.succeeds, hn.succeeds]
  · rw [failure_andThen h.succeeds', h.session, hn.succeeds']
  · rw [session_andThen h.succeeds', session_andThen h.succeeds, h.session, hn.session]
  · rw [chunks_andThen h.succeeds', chunks_andThen h.succeeds, h.chunks, h.session, hn.chunks]
  · rw [notices_andThen h.succeeds', notices_andThen h.succeeds, h.notices, h.session, hn.notices,
      List.map_append]

/-- Runs that agree in their notices as well go on alike. -/
theorem andThen_same {next : Session → Outcome} (h : o.Agrees id p)
    (hn : (o.andThen next).failure = none) : (o.andThen next).Agrees id (p.andThen next) := by
  have hnext : (next o.session).failure = none := (succeeds_of_andThen hn).2
  exact h.andThen ⟨hnext, hnext, rfl, rfl, (List.map_id _).symm⟩

end Agrees

end Outcome

/-! ### Lines under other numbers -/

/-- Moving every line down by the same number renumbers every notice. -/
theorem Notice.renumber?_shift (offset : Nat) (n : Notice) :
    n.renumber? (fun line => some (line + offset)) = some (n.shift offset) := by
  cases n <;> rfl

namespace Session

variable {s : Session} {number : Nat} {line : String}

/-- The number of a line does not show in the session. -/
theorem readLine_session (s : Session) (number number' : Nat) (line : String) :
    (s.readLine number' line).session = (s.readLine number line).session := by
  rw [readLine, readLine]
  cases Entry.ofLine line with
  | error error =>
      dsimp only
      rw [reject, reject]
      split <;> rfl
  | ok entry => cases entry <;> rfl

/-- Reading a line under another number. -/
theorem readLine_agrees (offset : Nat) (h : (s.readLine number line).failure = none) :
    (s.readLine number line).Agrees (Notice.shift offset) (s.readLine (number + offset) line) := by
  have hruns : (s.readLine number line).Renumbers (fun n => some (n + offset))
      (s.readLine (number + offset) line) :=
    readLine_renumbers (f := fun n => some (n + offset)) s s.summary.lines s.summary.skipped rfl
      line
  refine ⟨h, ?_, readLine_session s number _ line, hruns.chunks, ?_⟩
  · have hfailure := hruns.failure
    rwa [h] at hfailure
  · have hnotices := hruns.notices
    rwa [funext (Notice.renumber?_shift offset), List.filterMap_eq_map'] at hnotices

/-- Reading lines under other numbers. -/
theorem readLines_agrees {lines : List Bytes} (offset : Nat)
    (h : (s.readLines number lines).failure = none) :
    (s.readLines number lines).Agrees (Notice.shift offset)
      (s.readLines (number + offset) lines) := by
  induction lines generalizing s number with
  | nil => exact .of_silent rfl rfl
  | cons raw rest ih =>
      rw [readLines] at h
      rw [readLines, readLines]
      cases hraw : Utf8.decode? raw with
      | none =>
          rw [hraw] at h
          cases h
      | some line =>
          rw [hraw] at h
          obtain ⟨hfirst, hrest⟩ := Outcome.succeeds_of_andThen h
          have hagrees := ih hrest
          rw [Nat.add_right_comm] at hagrees
          exact (readLine_agrees offset hfirst).andThen hagrees

/-! ### Closing a package sooner or later -/

/-- Closing does nothing if no package is open. -/
theorem closePackage_of_scope (h : s.scope = none) : s.closePackage = .done s := by
  rw [closePackage, h]

/-- Closing a package leaves the options. -/
theorem closePackage_options (s : Session) : s.closePackage.session.options = s.options :=
  (closePackage_lawful s).setting.2.1

/-- Closing a package gives no notice. -/
theorem closePackage_notices (s : Session) : s.closePackage.notices = [] := by
  rw [closePackage.eq_def]
  split
  · rfl
  · obtain ⟨sink, -, hw | ⟨-, hw⟩⟩ := write_cases { s with scope := none } (.closing _) <;>
      rw [hw] <;> rfl

/-- A package is closed once. -/
theorem closePackage_closePackage (s : Session) :
    s.closePackage.andThen closePackage = s.closePackage := by
  rw [Outcome.andThen_congr (closePackage_of_scope (closePackage_scope s)),
    Outcome.andThen_done_right]

/-- A package line closes the package that is open, so it does not matter whether that has been
done before. -/
theorem closePackage_openPackage (h : s.started = true) (name : String) :
    (s.closePackage.andThen fun t => t.openPackage name) = s.openPackage name := by
  have hclosed : s.closePackage.session.closePackage = .done s.closePackage.session :=
    closePackage_of_scope (closePackage_scope s)
  have hstarted : s.closePackage.session.started = true := (closePackage_started s).trans h
  rw [openPackage.eq_def s, begin_of_started h, Outcome.andThen_done]
  refine Outcome.andThen_congr ?_
  rw [openPackage, begin_of_started hstarted, Outcome.andThen_done, hclosed, Outcome.andThen_done]

/-! ### Lines that contribute nothing -/

/-- If reading a line succeeds, the line is not malformed, unless the options are lenient. -/
theorem wellFormed_of_readLine_succeeds (h : (s.readLine number line).failure = none) :
    s.options.strict = false ∨ Reference.malformed? line = none := by
  refine Decidable.or_iff_not_imp_left.mpr fun hstrict => ?_
  rw [Bool.not_eq_false] at hstrict
  cases hline : Reference.malformed? line with
  | none => rfl
  | some error =>
      rw [Reference.readLine_malformed number hstrict hline] at h
      cases h

/-- A line that contributes nothing is counted and reported, and does nothing else. -/
theorem readLine_of_effective?_eq_none (number : Nat) (hline : Reference.effective? line = none)
    (h : s.options.strict = false ∨ Reference.malformed? line = none) :
    s.readLine number line =
      { session := s.recount (s.summary.lines + 1)
          (s.summary.skipped + (Line.remarks number line).length)
        trace := (Line.remarks number line).map .notice } := by
  rw [readLine, Line.remarks]
  obtain ⟨error, hmalformed, -, hentry⟩ | ⟨-, entry, hentry, hentry'⟩ :=
    Reference.ofLine_cases line
  · have hlenient : s.countLine.options.strict = false :=
      h.resolve_right (by simp [hmalformed])
    rw [hentry]
    dsimp only
    rw [reject, if_neg (by simp [hlenient])]
    rfl
  · rw [hline] at hentry'
    rw [hentry]
    cases entry with
    | nothing => rfl
    | package name => cases hentry'
    | message m => cases hentry'
    | ignored tokens => rfl

/-- **Closing can wait.** A line that contributes nothing may be read after a package has been
closed or before. -/
theorem readLine_closed (hline : Reference.effective? line = none)
    (hclose : s.closePackage.failure = none)
    (h : s.options.strict = false ∨ Reference.malformed? line = none) :
    (s.closePackage.andThen fun t => t.readLine number line).Agrees id
      ((s.readLine number line).andThen closePackage) := by
  have hcounts := closePackage_keepsLineCounts s
  have hafter := readLine_of_effective?_eq_none (s := s.closePackage.session) number hline
    (closePackage_options s ▸ h)
  rw [hcounts.lines, hcounts.skipped] at hafter
  have hbefore := readLine_of_effective?_eq_none (s := s) number hline h
  have hremarks : ((Line.remarks number line).map Event.notice).filterMap Event.stored? = [] := by
    rw [List.filterMap_map]
    exact List.filterMap_eq_nil_iff.mpr fun _ _ => rfl
  have hsilent (t : Session) : Outcome.notices { s.closePackage with session := t } = [] :=
    closePackage_notices s
  rw [hbefore]
  refine ⟨?_, ?_, ?_, ?_, ?_⟩
  · rw [Outcome.failure_andThen hclose, hafter]
  · rw [Outcome.failure_andThen rfl, closePackage_recount, hclose]
  · rw [Outcome.session_andThen rfl, Outcome.session_andThen hclose, closePackage_recount, hafter]
  · rw [Outcome.chunks_andThen rfl, Outcome.chunks_andThen hclose, closePackage_recount, hafter]
    simp only [Outcome.chunks, hremarks, List.append_nil, List.nil_append]
  · rw [Outcome.notices_andThen rfl, Outcome.notices_andThen hclose, closePackage_recount, hafter,
      closePackage_notices, hsilent, List.append_nil, List.nil_append, List.map_id]
    rfl

/-- A package line may be read after the package before it has been closed, or it closes that
package itself. -/
theorem readLine_package_closed {name : String} (hstarted : s.started = true)
    (hline : Reference.effective? line = some (.package name))
    (hclose : s.closePackage.failure = none) :
    (s.closePackage.andThen fun t => t.readLine number line) = s.readLine number line := by
  have hread (t : Session) : t.readLine number line = t.countLine.openPackage name := by
    rw [readLine]
    obtain ⟨error, -, hnone, -⟩ | ⟨-, entry, hentry, hentry'⟩ := Reference.ofLine_cases line
    · cases hnone.symm.trans hline
    · rw [hline] at hentry'
      rw [hentry]
      cases entry with
      | package name' =>
          obtain rfl : name' = name := by simpa [Reference.ofEntry] using hentry'
          rfl
      | nothing | message m | ignored tokens => cases hentry'
  have hcounts := closePackage_keepsLineCounts s
  have hcounted : s.countLine.closePackage =
      { s.closePackage with session := s.closePackage.session.countLine } := by
    have hcount (t : Session) : t.countLine = t.recount (t.summary.lines + 1) t.summary.skipped :=
      rfl
    rw [hcount, closePackage_recount, hcount, hcounts.lines, hcounts.skipped]
  simp only [hread]
  rw [← closePackage_openPackage (s := s.countLine) hstarted, hcounted]
  simp only [Outcome.andThen, hclose]

/-! ### Reading in turn, and as one -/

end Session

namespace Line

variable {raw : Bytes} {rest : List Bytes} {line : String}

/-- What a line contributes comes before what the lines after it contribute. -/
theorem contributions_cons (hraw : Utf8.decode? raw = some line) :
    contributions (raw :: rest) = (Reference.effective? line).toList ++ contributions rest := by
  rw [contributions, List.filterMap_cons, hraw, Option.bind_some]
  cases Reference.effective? line <;> rfl

/-- What texts contribute. -/
theorem contributions_texts {lines : List Bytes} {texts : List String}
    (h : lines.map Utf8.decode? = texts.map some) :
    contributions lines = texts.filterMap Reference.effective? := by
  have hlines : contributions lines =
      (lines.map Utf8.decode?).filterMap fun text => text.bind Reference.effective? := by
    rw [contributions, List.filterMap_map]
    rfl
  rw [hlines, h, List.filterMap_map]
  rfl

end Line

namespace Session

/-- Closing the package that is open before reading lines, or leaving that to the lines, if the
first one of them that contributes anything opens a package. The induction is over the lines before
that one, with the package still open in the second run. -/
theorem readLines_closed {s : Session} {number : Nat} {lines : List Bytes} (offset : Nat)
    (hstarted : s.started = true) (hlead : Line.LeadWithPackage lines)
    (h : (s.closePackage.andThen fun t =>
      (t.readLines number lines).andThen closePackage).failure = none) :
    (s.closePackage.andThen fun t => (t.readLines number lines).andThen closePackage).Agrees
      (Notice.shift offset) ((s.readLines (number + offset) lines).andThen closePackage) := by
  induction lines generalizing s number with
  | nil =>
      simp only [readLines, Outcome.andThen_done] at h ⊢
      rw [closePackage_closePackage] at h ⊢
      exact .of_silent h (closePackage_notices s)
  | cons raw rest ih =>
      obtain ⟨hclose, hread⟩ := Outcome.succeeds_of_andThen h
      cases hraw : Utf8.decode? raw with
      | none =>
          rw [readLines, hraw] at hread
          cases hread
      | some line =>
          simp only [readLines, hraw, Outcome.andThen_assoc] at h ⊢
          rw [← Outcome.andThen_assoc] at h ⊢
          obtain ⟨hfirst, hrest⟩ := Outcome.succeeds_of_andThen h
          cases hline : Reference.effective? line with
          | none =>
              have hwell := wellFormed_of_readLine_succeeds (Outcome.succeeds_of_andThen hfirst).2
              rw [closePackage_options] at hwell
              have hmoved := (readLine_closed hline hclose hwell).andThen_same h
              rw [Outcome.andThen_assoc (s.readLine number line)] at hmoved
              obtain ⟨hread', hrest'⟩ := Outcome.succeeds_of_andThen hmoved.succeeds'
              have hlead' : Line.LeadWithPackage rest := by
                intro m
                have hm := hlead m
                rwa [Line.contributions_cons hraw, hline] at hm
              have hlater := ih ((readLine_lawful s number line).started hstarted) hlead' hrest'
              rw [Nat.add_right_comm] at hlater
              exact hmoved.trans ((readLine_agrees offset hread').andThen hlater)
          | some effective =>
              cases effective with
              | message m =>
                  have hm := hlead m
                  rw [Line.contributions_cons hraw, hline] at hm
                  exact absurd rfl hm
              | package name =>
                  rw [readLine_package_closed hstarted hline hclose] at hfirst hrest ⊢
                  obtain ⟨hlater, hlast⟩ := Outcome.succeeds_of_andThen hrest
                  rw [Nat.add_right_comm]
                  exact (readLine_agrees offset hfirst).andThen
                    ((readLines_agrees offset hlater).andThen
                      (.of_silent hlast (closePackage_notices _)))

/-- **Reading two files in turn, and as one.** -/
theorem readDefinitions_append {s : Session} {first second : Bytes} (hwhole : Line.Whole first)
    (hlead : Line.LeadWithPackage (Line.split second))
    (h : (s.readDefinitions (.ok first)).failure = none)
    (h' : ((s.readDefinitions (.ok first)).session.readDefinitions (.ok second)).failure = none) :
    Outcome.Joins (Line.split first).length (s.readDefinitions (.ok (first ++ second)))
      (s.readDefinitions (.ok first))
      ((s.readDefinitions (.ok first)).session.readDefinitions (.ok second)) := by
  let o := s.begin.andThen fun t => t.readLines 1 (Line.split first)
  have hfirst : s.readDefinitions (.ok first) = o.andThen closePackage :=
    (Outcome.andThen_assoc _ _ _).symm
  have hjoined : s.readDefinitions (.ok (first ++ second)) = o.andThen fun t =>
      (t.readLines (1 + (Line.split first).length) (Line.split second)).andThen closePackage := by
    simp only [readDefinitions, readSource, Line.split_append hwhole, readLines_append,
      Outcome.andThen_assoc, o]
  have hstarted : o.session.started = true :=
    Outcome.andThen_keeps (P := fun t => t.started = true) (begin_started s)
      ((readLines_lawful _ 1 _).started (begin_started s))
  have hlayout : ((s.readDefinitions (.ok first)).session.readDefinitions
      (.ok second)).session.layout = (s.readDefinitions (.ok first)).session.layout :=
    (readDefinitions_lawful _ _).setting.1
  have hsecond (t : Session) (ht : t.started = true) : t.readDefinitions (.ok second) =
      (t.readLines 1 (Line.split second)).andThen closePackage := by
    rw [readDefinitions, begin_of_started ht, Outcome.andThen_done]
    rfl
  rw [hfirst] at h
  obtain ⟨ho, hclose⟩ := Outcome.succeeds_of_andThen h
  rw [hfirst, Outcome.session_andThen ho,
    hsecond _ ((closePackage_started o.session).trans hstarted)] at h' hlayout ⊢
  have hagrees := readLines_closed (Line.split first).length hstarted hlead
    ((Outcome.failure_andThen hclose).trans h')
  have hsession := hagrees.session
  have hchunks := hagrees.chunks
  have hnotices := hagrees.notices
  rw [Outcome.session_andThen hclose] at hsession
  rw [Outcome.chunks_andThen hclose] at hchunks
  rw [Outcome.notices_andThen hclose, closePackage_notices, List.nil_append] at hnotices
  refine Outcome.Joins.of_chunks ?_ ?_ ?_ ?_ ?_
  · rw [hjoined, Outcome.failure_andThen ho, hagrees.succeeds']
  · rw [hjoined, Outcome.session_andThen ho, hsession]
  · rw [hjoined, Outcome.chunks_andThen ho, hchunks, Outcome.chunks_andThen ho, List.append_assoc]
  · rw [hlayout, Outcome.session_andThen ho]
  · rw [hjoined, Outcome.notices_andThen ho, hnotices, Outcome.notices_andThen ho,
      closePackage_notices, List.append_nil]

end Session

/-! ### Compilations -/

/-- Summaries are added counter by counter. -/
instance : Add Summary where
  add v w :=
    { lines := v.lines + w.lines
      namespaces := v.namespaces + w.namespaces
      functions := v.functions + w.functions
      skipped := v.skipped + w.skipped }

/-- Summaries are added counter by counter. -/
theorem Summary.get_add (v w : Summary) (c : Counter) : (v + w).get c = v.get c + w.get c := by
  cases c <;> rfl

/-- A summary is known from its lines and its counters. -/
theorem Summary.ext_get {v w : Summary} (hlines : v.lines = w.lines)
    (hget : ∀ c, v.get c = w.get c) : v = w := by
  obtain ⟨lines, namespaces, functions, skipped⟩ := v
  obtain ⟨lines', namespaces', functions', skipped'⟩ := w
  obtain rfl : lines = lines' := hlines
  obtain rfl : namespaces = namespaces' := hget .namespaces
  obtain rfl : functions = functions' := hget .functions
  obtain rfl : skipped = skipped' := hget .skipped
  rfl

namespace Reference

/-- The groups of two files, if no message of the second one comes before its packages. -/
theorem group_append {first others : List Effective} (h : (group others).1 = []) :
    group (first ++ others) = ((group first).1, (group first).2 ++ (group others).2) := by
  induction first with
  | nil => exact Prod.ext h rfl
  | cons line rest ih => cases line <;> simp [group, ih]

/-- **The items of two files** make up those of the two together, unless the second one adds
messages to the last package of the first one. -/
theorem items_append {first others : List Effective}
    (h : ∀ m, others.head? ≠ some (.message m)) :
    items (first ++ others) = items first ++ items others := by
  have hothers : (group others).1 = [] := by
    rcases others with - | ⟨line, rest⟩
    · rfl
    · cases line with
      | message m => exact absurd rfl (h m)
      | package name => rfl
  rw [items, items, items, group_append hothers, hothers]
  simp

end Reference

/-- Runs that account for texts from zero account for more texts together. -/
theorem Outcome.Accounts.summary_add {o o' p : Outcome} {texts texts' : List String}
    (h : o.Accounts {} texts) (h' : o'.Accounts {} texts') (hp : p.Accounts {} (texts ++ texts')) :
    p.session.summary = o.session.summary + o'.session.summary := by
  refine Summary.ext_get ?_ fun c => ?_
  · have hsum : (o.session.summary + o'.session.summary).lines =
        o.session.summary.lines + o'.session.summary.lines := rfl
    have hzero : Summary.lines {} = 0 := rfl
    rw [hsum, hp.lines, h.lines, h'.lines, List.length_append, hzero]
    omega
  · have hzero : Summary.get {} c = 0 := by cases c <;> rfl
    rw [Summary.get_add, hp.counted, h.counted, h'.counted, List.filterMap_append,
      List.count_append, hzero]
    omega

/-- **Compiling two files, and compiling them as one.** -/
theorem compile_joined {a b : Admission} {options : Options} {output : Option Path}
    {first second : Bytes} (hwhole : Line.Whole first)
    (hlead : Line.LeadWithPackage (Line.split second))
    (h : (compile a options output (.ok first)).failure = none)
    (h' : (compile b options output (.ok second)).failure = none) :
    (compile .unlimited options output (.ok (first ++ second))).failure = none ∧
      ∃ body body',
        (compile a options output (.ok first)).written =
          (Layout.select options output).enclose body ∧
        (compile b options output (.ok second)).written =
          (Layout.select options output).enclose body' ∧
        ∀ c, (compile c options output (.ok (first ++ second))).failure = none →
          (compile c options output (.ok (first ++ second))).written =
            (Layout.select options output).enclose (body ++ body') ∧
          (compile c options output (.ok (first ++ second))).session.summary =
            (compile a options output (.ok first)).session.summary +
              (compile b options output (.ok second)).session.summary := by
  obtain ⟨texts, htexts, hwell, haccounts, hchunks⟩ := compile_succeeds h
  obtain ⟨texts', htexts', hwell', haccounts', hchunks'⟩ := compile_succeeds h'
  have hjoined : (Line.split (first ++ second)).map Utf8.decode? = (texts ++ texts').map some := by
    rw [Line.split_append hwhole, List.map_append, List.map_append, htexts, htexts']
  have hwellJoined : options.strict = false ∨
      ∀ line ∈ texts ++ texts', Reference.malformed? line = none := by
    rcases hwell with hlenient | hwell
    · exact .inl hlenient
    rcases hwell' with hlenient | hwell'
    · exact .inl hlenient
    · exact .inr fun line hline => (List.mem_append.mp hline).elim (hwell line) (hwell' line)
  refine ⟨(Reference.compile_lines_yields options output hjoined hwellJoined).failure, ?_⟩
  rw [Line.LeadWithPackage, Line.contributions_texts htexts'] at hlead
  refine ⟨_, _, written_eq_enclose hchunks, written_eq_enclose hchunks', ?_⟩
  intro c hc
  obtain ⟨all, hall, -, haccountsAll, hchunksAll⟩ := compile_succeeds hc
  obtain rfl : all = texts ++ texts' :=
    List.map_injective_iff.mpr (fun _ _ => Option.some.inj) (hall.symm.trans hjoined)
  refine ⟨?_, haccounts.summary_add haccounts' haccountsAll⟩
  rw [written_eq_enclose hchunksAll, List.filterMap_append, Reference.items_append hlead,
    List.flatMap_append, Layout.spelling_append]

/-! ### The main result -/

/-- **Definition files compose at package boundaries.** Let the first file consist of whole lines,
and let the second one open a package before it defines a message.

Whatever the session, if the two are read in turn and both readings succeed, then reading them as
one file succeeds, does what the two did, and ends in the same session; only the lines of the second
file are reported by other numbers, further down by the number of lines of the first one.

For compilations this means: if each of the two files compiles, on whatever sink, then so do the two
as one on a sink that takes everything, and wherever they do, the text between the beginning and the
end of the file is that of the first file followed by that of the second one, and the summary is the
sum of the two. -/
theorem files_compose (first second : Bytes) (hwhole : Line.Whole first)
    (hlead : Line.LeadWithPackage (Line.split second)) :
    (∀ s : Session,
      let o := s.readDefinitions (.ok first)
      let o' := o.session.readDefinitions (.ok second)
      o.failure = none → o'.failure = none →
        (s.readDefinitions (.ok (first ++ second))).Joins (Line.split first).length o o') ∧
      ∀ (options : Options) (output : Option Path) (a b : Admission),
        let layout := Layout.select options output
        let o := compile a options output (.ok first)
        let o' := compile b options output (.ok second)
        o.failure = none → o'.failure = none →
          (compile .unlimited options output (.ok (first ++ second))).failure = none ∧
            ∃ body body', o.written = layout.enclose body ∧ o'.written = layout.enclose body' ∧
              ∀ c,
                let p := compile c options output (.ok (first ++ second))
                p.failure = none → p.written = layout.enclose (body ++ body') ∧
                  p.session.summary = o.session.summary + o'.session.summary :=
  ⟨fun _ h h' => Session.readDefinitions_append hwhole hlead h h',
    fun _ _ _ _ h h' => compile_joined hwhole hlead h h'⟩

/-- A file with a comment and a stray word before its package line, which repeats the package and the
message of the file before it. -/
theorem files_compose_stray_word :
    let first := Utf8.encode "package p\nm x\n"
    let second := Utf8.encode "# notes\nstray\npackage p\nm y\n"
    let s := Session.start (Layout.select {} none) {} (.upTo 4000)
    let o := s.readDefinitions (.ok first)
    let o' := o.session.readDefinitions (.ok second)
    let compiled := fun bytes => compile .unlimited {} none (.ok bytes)
    (Line.Whole first ∧ Line.LeadWithPackage (Line.split second) ∧
      o.failure = none ∧ o'.failure = none ∧
      o'.notices = [.lineIgnored 2 1, .openingPackage "p", .duplicateMessage "m" (some "p"),
        .generatingFunction "m" 0] ∧
      (s.readDefinitions (.ok (first ++ second))).Joins 2 o o') ∧
    (compiled first).failure = none ∧ (compiled second).failure = none ∧
      (compiled (first ++ second)).failure = none ∧
      (compiled (first ++ second)).session.summary =
        (compiled first).session.summary + (compiled second).session.summary := by
  intro first second s o o' compiled
  have hwhole : Line.Whole first := by decide +kernel
  have hlead : Line.LeadWithPackage (Line.split second) := by
    have hhead : (Line.contributions (Line.split second)).head? = some (.package "p") := by
      decide +kernel
    intro m hm
    cases hhead.symm.trans hm
  have hfirst : o.failure = none := by decide +kernel
  have hsecond : o'.failure = none := by decide +kernel
  have hcompiled : (compiled first).failure = none := by decide +kernel
  have hcompiled' : (compiled second).failure = none := by decide +kernel
  obtain ⟨hread, hcompile⟩ := files_compose first second hwhole hlead
  obtain ⟨hboth, body, body', -, -, hjoined⟩ :=
    hcompile {} none .unlimited .unlimited hcompiled hcompiled'
  exact ⟨⟨hwhole, hlead, hfirst, hsecond, by decide +kernel, hread s hfirst hsecond⟩,
    hcompiled, hcompiled', hboth, (hjoined .unlimited hboth).2⟩

end Phrasebook
