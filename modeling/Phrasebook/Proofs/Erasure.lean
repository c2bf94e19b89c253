import Phrasebook.Proofs.Session.Causes
import Phrasebook.Proofs.Session.Counters
import Phrasebook.Proofs.Session.Renumbering

/-!
# Lines that can be erased

Some lines of a definition file produce nothing: blank lines and comments, lines with a number
of tokens that means nothing, and, as long as the options are lenient, malformed lines. Any
choice of such lines can be deleted from a file. What is left is compiled to the same output,
whatever has been written before and wherever the sink refuses a chunk. Only what is said about
lines changes: the notices about deleted lines are missing, those about other lines have the new
numbers of these lines, and fewer lines are counted.

A choice is a list of *marked lines*. The new number of a line is one more than the number of
lines before it that remain (`MarkedLine.newNumber?`).

## Main results

* `effective?_eq_none_of_erasable`: a line of any of these kinds contributes nothing.
* `readLine_erased`, `readLines_erased`: reading lines that can be erased, compared with passing
  over them.
* `readDefinitions_erased`: deleting such lines from a file.
-/

namespace Phrasebook

/-- A line that produces nothing, if the options are lenient. -/
inductive Line.Erasable (line : String) : Prop
  /-- The line is blank or a comment. -/
  | silent (h : isSilent line.toList = true)
  /-- The line is to open a package, but does not name it. -/
  | unnamedPackage (h : tokens line = .ok ["package"])
  /-- The line is neither about a package nor a pair of tokens. -/
  | unpaired {first : String} {rest : List String} (h : tokens line = .ok (first :: rest))
      (hfirst : first ≠ "package") (hrest : rest.length ≠ 1)
  /-- A quoted run never ends. -/
  | unterminated {error : Malformed} (h : tokens line = .error error)
  /-- The line defines a message whose template is refused. -/
  | refused {name template : String} {refusal : Template.Refusal}
      (h : tokens line = .ok [name, template]) (hname : name ≠ "package")
      (hrefused : Template.read template = .error refusal)

/-- A line of a file, and whether it remains when lines are deleted. -/
structure MarkedLine where
  bytes : Bytes
  remains : Bool
  deriving DecidableEq, Repr

namespace MarkedLine

/-- The lines that remain. -/
def remaining (lines : List MarkedLine) : List Bytes :=
  (lines.filter fun line => line.remains).map bytes

/-- The lines that are deleted. -/
def deleted (lines : List MarkedLine) : List Bytes :=
  (lines.filter fun line => !line.remains).map bytes

/-- The place of a line among those that remain, if it does; places are counted from zero. -/
def newIndex? (lines : List MarkedLine) (i : Nat) : Option Nat :=
  lines[i]?.bind fun line =>
    if line.remains then some (remaining (lines.take i)).length else none

/-- The number of a line among those that remain, if it does; lines are numbered from one. -/
def newNumber? (lines : List MarkedLine) : Nat → Option Nat
  | 0 => none
  | i + 1 => (newIndex? lines i).map (· + 1)

/-- If the lines are numbered from `a`, and those that remain from `b`, then `f` gives the lines
their new numbers. -/
def NumberedBy (f : Nat → Option Nat) (lines : List MarkedLine) (a b : Nat) : Prop :=
  ∀ i, f (a + i) = (newIndex? lines i).map (b + ·)

end MarkedLine

/-! ### Choices -/

namespace MarkedLine

variable {line : MarkedLine} (rest : List MarkedLine)

/-- A line that remains is the first of those that do. -/
theorem remaining_cons_of_remains (h : line.remains = true) :
    remaining (line :: rest) = line.bytes :: remaining rest := by
  simp [remaining, h]

/-- A deleted line is not among those that remain. -/
theorem remaining_cons_of_deleted (h : line.remains = false) :
    remaining (line :: rest) = remaining rest := by
  simp [remaining, h]

/-- A line in front does not take another one out of the deleted ones. -/
theorem mem_deleted_cons {rest : List MarkedLine} {bytes : Bytes} (line : MarkedLine)
    (h : bytes ∈ deleted rest) : bytes ∈ deleted (line :: rest) := by
  cases hline : line.remains <;> simp_all [deleted]

/-- The first line keeps its place if it remains. -/
theorem newIndex?_cons_zero (line : MarkedLine) :
    newIndex? (line :: rest) 0 = if line.remains then some 0 else none := rfl

/-- A line that remains moves those after it by one. -/
theorem newIndex?_cons_succ_of_remains (h : line.remains = true) (i : Nat) :
    newIndex? (line :: rest) (i + 1) = (newIndex? rest i).map (· + 1) := by
  rw [newIndex?, newIndex?, List.getElem?_cons_succ, List.take_succ_cons,
    remaining_cons_of_remains _ h]
  cases rest[i]? with
  | none => rfl
  | some other => cases hother : other.remains <;> simp [hother]

/-- A line that is deleted does not move those after it. -/
theorem newIndex?_cons_succ_of_deleted (h : line.remains = false) (i : Nat) :
    newIndex? (line :: rest) (i + 1) = newIndex? rest i := by
  rw [newIndex?, newIndex?, List.getElem?_cons_succ, List.take_succ_cons,
    remaining_cons_of_deleted _ h]

namespace NumberedBy

variable {f : Nat → Option Nat} {rest : List MarkedLine} {a b : Nat}

/-- The first line keeps its place if it remains. -/
theorem of_remains (h : NumberedBy f (line :: rest) a b) (hline : line.remains = true) :
    f a = some b ∧ NumberedBy f rest (a + 1) (b + 1) := by
  constructor
  · have hfirst := h 0
    rwa [newIndex?_cons_zero, if_pos hline] at hfirst
  · intro i
    rw [Nat.add_assoc, Nat.add_comm 1, h, newIndex?_cons_succ_of_remains rest hline, Option.map_map]
    congr 1
    funext j
    rw [Function.comp_apply]
    omega

/-- If the first line is deleted, the others move up. -/
theorem of_deleted (h : NumberedBy f (line :: rest) a b) (hline : line.remains = false) :
    f a = none ∧ NumberedBy f rest (a + 1) b := by
  constructor
  · have hfirst := h 0
    rwa [newIndex?_cons_zero, if_neg (by simp [hline])] at hfirst
  · intro i
    rw [Nat.add_assoc, Nat.add_comm 1, h, newIndex?_cons_succ_of_deleted rest hline]

end NumberedBy

/-- The lines of a file are numbered from one. -/
theorem numberedBy_newNumber? (lines : List MarkedLine) : NumberedBy (newNumber? lines) lines 1 1 := by
  intro i
  rw [Nat.add_comm 1 i, newNumber?]
  simp only [Nat.add_comm]

/-- Every line remains or is deleted. -/
theorem countP_bytes (p : Bytes → Bool) (lines : List MarkedLine) :
    (lines.map bytes).countP p = (remaining lines).countP p + (deleted lines).countP p := by
  induction lines with
  | nil => rfl
  | cons line rest ih =>
      cases h : line.remains <;> simp_all [remaining, deleted, List.countP_cons] <;> omega

/-- Every line is counted among those that remain or among the deleted ones. -/
theorem length_bytes (lines : List MarkedLine) :
    (lines.map bytes).length = (remaining lines).length + (deleted lines).length := by
  simpa using countP_bytes (fun _ => true) lines

end MarkedLine

/-! ### Lines that contribute nothing -/

/-- A line that can be erased contributes nothing. -/
theorem effective?_eq_none_of_erasable {line : String} (h : Line.Erasable line) :
    Reference.effective? line = none := by
  rw [Reference.effective?]
  cases h with
  | silent h => rw [(Line.tokens_eq_nil_iff line).mpr h]
  | unnamedPackage h => rw [h]
  | @unpaired first rest h hfirst hrest =>
      rw [h]
      rcases rest with - | ⟨second, - | ⟨third, rest⟩⟩
      · rfl
      · exact absurd rfl hrest
      · simp [hfirst]
  | unterminated h => rw [h]
  | refused h hname hrefused => simp [h, hname, hrefused]

namespace Session

/-- Skipping a line without a new number, compared with passing over it. -/
theorem skip_erased {f : Nat → Option Nat} {n : Notice} (s : Session) (lines skipped : Nat)
    (hn : n.renumber? f = none) :
    ((s.report n).andThen fun s => .done s.countSkipped).Renumbers f
      (.done (s.recount lines skipped)) := by
  refine ⟨⟨lines, skipped, rfl⟩, ?_, rfl⟩
  simp [Outcome.andThen, report, Outcome.done, Event.renumber?, hn]

/-- **Reading a line that contributes nothing**, compared with passing over it. -/
theorem readLine_erased {f : Nat → Option Nat} {number : Nat} {line : String} (s : Session)
    (lines skipped : Nat) (hf : f number = none) (hlenient : s.options.strict = false)
    (hline : Reference.effective? line = none) :
    (s.readLine number line).Renumbers f (.done (s.recount lines skipped)) := by
  rw [readLine]
  obtain ⟨error, -, -, hentry⟩ | ⟨-, entry, hentry, heffective⟩ := Reference.ofLine_cases line
  · have hlenient' : ¬ s.countLine.options.strict = true := by
      rw [show s.countLine.options = s.options from rfl, hlenient]
      exact Bool.false_ne_true
    rw [hentry]
    dsimp only
    rw [reject, if_neg hlenient']
    exact skip_erased s.countLine lines skipped (by simp [Notice.renumber?, hf])
  · rw [hentry]
    cases entry with
    | nothing => exact done_renumbers f s.countLine lines skipped
    | package name => simp [hline, Reference.ofEntry] at heffective
    | message m => simp [hline, Reference.ofEntry] at heffective
    | ignored tokens =>
        exact skip_erased s.countLine lines skipped (by simp [Notice.renumber?, hf])

/-- **Reading lines some of which can be erased**, compared with reading those that remain. The
first line has the number `a` in one run, and in the other run the first line that remains has the
number `b`. At a line that is deleted, the second run has not read anything yet and goes on from its
own session. -/
theorem readLines_erased {f : Nat → Option Nat} {marked : List MarkedLine} {a b : Nat} (s : Session)
    (lines skipped : Nat) (hlenient : s.options.strict = false)
    (hf : MarkedLine.NumberedBy f marked a b)
    (herasable : ∀ bytes ∈ MarkedLine.deleted marked,
      ∃ line, Utf8.decode? bytes = some line ∧ Line.Erasable line) :
    (s.readLines a (marked.map MarkedLine.bytes)).Renumbers f
      ((s.recount lines skipped).readLines b (MarkedLine.remaining marked)) := by
  induction marked generalizing s lines skipped a b with
  | nil => exact done_renumbers f s lines skipped
  | cons first rest ih =>
      have hlenient' (text : String) : (s.readLine a text).session.options.strict = false := by
        have hoptions : (s.readLine a text).session.options = s.options :=
          (readLine_lawful s a text).setting.2.1
        rw [hoptions, hlenient]
      have hdeleted : ∀ bytes ∈ MarkedLine.deleted rest,
          ∃ line, Utf8.decode? bytes = some line ∧ Line.Erasable line :=
        fun bytes hbytes => herasable bytes (MarkedLine.mem_deleted_cons first hbytes)
      rw [List.map_cons, readLines]
      cases hremains : first.remains with
      | true =>
          obtain ⟨hfirst, hrest⟩ := hf.of_remains hremains
          rw [MarkedLine.remaining_cons_of_remains rest hremains, readLines]
          cases Utf8.decode? first.bytes with
          | none => exact ⟨⟨lines, skipped, rfl⟩, rfl, rfl⟩
          | some text =>
              exact (readLine_renumbers s lines skipped hfirst text).andThen
                fun lines skipped => ih _ lines skipped (hlenient' text) hrest hdeleted
      | false =>
          obtain ⟨hfirst, hrest⟩ := hf.of_deleted hremains
          have hmem : first.bytes ∈ MarkedLine.deleted (first :: rest) := by
            simp [MarkedLine.deleted, hremains]
          obtain ⟨text, hdecode, htext⟩ := herasable first.bytes hmem
          rw [hdecode, MarkedLine.remaining_cons_of_deleted rest hremains]
          refine .andThen_passed (fun t => t.readLines b (MarkedLine.remaining rest))
            (readLine_erased s lines skipped hfirst hlenient (effective?_eq_none_of_erasable htext)) ?_
          exact fun lines skipped => ih _ lines skipped (hlenient' text) hrest hdeleted

/-- A file from which lines that can be erased have been deleted is read like the whole file. -/
theorem readDefinitions_renumbers {s : Session} {marked : List MarkedLine} {whole rest : Bytes}
    (hlenient : s.options.strict = false)
    (hwhole : Line.split whole = marked.map MarkedLine.bytes)
    (hrest : Line.split rest = MarkedLine.remaining marked)
    (herasable : ∀ bytes ∈ MarkedLine.deleted marked,
      ∃ line, Utf8.decode? bytes = some line ∧ Line.Erasable line) :
    (s.readDefinitions (.ok whole)).Renumbers (MarkedLine.newNumber? marked)
      (s.readDefinitions (.ok rest)) := by
  have hoptions : s.begin.session.options = s.options := (begin_lawful s).setting.2.1
  refine (begin_renumbers _ s s.summary.lines s.summary.skipped).andThen fun lines skipped => ?_
  refine Outcome.Renumbers.andThen ?_ fun lines skipped => closePackage_renumbers _ _ lines skipped
  rw [readSource, readSource, hwhole, hrest]
  exact readLines_erased s.begin.session lines skipped (hoptions ▸ hlenient)
    (MarkedLine.numberedBy_newNumber? marked) herasable

end Session

/-! ### Counters -/

/-- Whether a line of a file is text and belongs to a counter. -/
def Line.belongsTo (c : Counter) (bytes : Bytes) : Bool :=
  (Utf8.decode? bytes).bind counter? == some c

/-- Whether a line of a file is text and neither blank nor a comment. -/
def Line.speaks (bytes : Bytes) : Bool :=
  (Utf8.decode? bytes).any fun line => !isSilent line.toList

/-- The lines that are counted by a counter are those that belong to it. -/
theorem Line.count_filterMap_counter? {lines : List Bytes} {texts : List String}
    (h : lines.map Utf8.decode? = texts.map some) (c : Counter) :
    (texts.filterMap counter?).count c = lines.countP (belongsTo c) := by
  calc (texts.filterMap counter?).count c
      = texts.countP fun text => counter? text == some c := List.count_filterMap
    _ = (texts.map some).countP fun text? => text?.bind counter? == some c := by
        rw [List.countP_map]
        rfl
    _ = (lines.map Utf8.decode?).countP fun text? => text?.bind counter? == some c := by rw [h]
    _ = lines.countP (belongsTo c) := List.countP_map

/-- A line that can be erased belongs to the skipped lines, unless it is blank or a comment. -/
theorem Line.belongsTo_skipped_of_erasable {bytes : Bytes} {line : String}
    (hdecode : Utf8.decode? bytes = some line) (h : Erasable line) :
    belongsTo .skipped bytes = speaks bytes := by
  rw [belongsTo, speaks, hdecode, Option.bind_some, counter?, effective?_eq_none_of_erasable h]
  cases hsilent : isSilent line.toList <;> simp [hsilent]

/-- What reading a file to its end adds to the counters of lines. -/
theorem Session.readDefinitions_lineCounts {s : Session} {bytes : Bytes}
    (h : (s.readDefinitions (.ok bytes)).failure = none) :
    let v := (s.readDefinitions (.ok bytes)).session.summary
    v.lines = s.summary.lines + (Line.split bytes).length ∧
      v.skipped = s.summary.skipped + (Line.split bytes).countP (Line.belongsTo .skipped) := by
  obtain ⟨texts, htexts, haccounts⟩ := readDefinitions_accounts h
  have hlength : (Line.split bytes).length = texts.length := by
    simpa using congrArg List.length htexts
  rw [hlength, ← Line.count_filterMap_counter? htexts]
  exact ⟨haccounts.lines, haccounts.counted .skipped⟩

/-! ### The main result -/

/-- **Lines that produce nothing can be erased.** From every lenient session, whatever has been
written before and wherever its sink refuses a chunk, a file is read like what is left of it when
any choice of lines that produce nothing is deleted.

* The same chunks are stored, and both runs succeed or fail with the same failure of access.
* The sessions after them are the same, but for the counters of lines.
* The notices are the same, except that those about deleted lines are missing and those about
  other lines have the new numbers of these lines.
* If the runs succeed, the counter of lines is less by the number of deleted lines, and that of
  skipped lines by the number of those that are neither blank nor comments. -/
theorem readDefinitions_erased (s : Session) (marked : List MarkedLine) (whole rest : Bytes)
    (hlenient : s.options.strict = false)
    (hwhole : Line.split whole = marked.map MarkedLine.bytes)
    (hrest : Line.split rest = MarkedLine.remaining marked)
    (herasable : ∀ bytes ∈ MarkedLine.deleted marked,
      ∃ line, Utf8.decode? bytes = some line ∧ Line.Erasable line) :
    let o := s.readDefinitions (.ok whole)
    let p := s.readDefinitions (.ok rest)
    p.chunks = o.chunks ∧ p.written = o.written ∧ p.failure = o.failure ∧
      (∀ failure, o.failure = some failure → ∃ error, failure = .access error) ∧
      p.session = o.session.recount p.session.summary.lines p.session.summary.skipped ∧
      p.notices = o.notices.filterMap (Notice.renumber? (MarkedLine.newNumber? marked)) ∧
      (o.failure = none →
        o.session.summary.lines =
          p.session.summary.lines + (MarkedLine.deleted marked).length ∧
        o.session.summary.skipped =
          p.session.summary.skipped + (MarkedLine.deleted marked).countP Line.speaks) := by
  intro o p
  have hruns : o.Renumbers (MarkedLine.newNumber? marked) p :=
    Session.readDefinitions_renumbers hlenient hwhole hrest herasable
  have haccess : ∀ failure, o.failure = some failure → ∃ error, failure = .access error := by
    intro failure hfailure
    obtain haccess | ⟨hstrict, -⟩ := s.readDefinitions_failsOnlyFor (.ok whole) failure hfailure
    · exact haccess
    · exact absurd (hlenient.symm.trans hstrict) Bool.false_ne_true
  have hfailure : p.failure = o.failure := by
    rw [hruns.failure]
    cases ho : o.failure with
    | none => rfl
    | some failure =>
        obtain ⟨error, rfl⟩ := haccess failure ho
        rfl
  refine ⟨hruns.chunks, hruns.written, hfailure, haccess, ?_, hruns.notices, ?_⟩
  · obtain ⟨lines, skipped, hsession⟩ := hruns.session
    rw [hsession]
    rfl
  · intro hnone
    obtain ⟨hlines, hskipped⟩ := Session.readDefinitions_lineCounts hnone
    obtain ⟨hlines', hskipped'⟩ := Session.readDefinitions_lineCounts (hfailure.trans hnone)
    have hspeaking : (MarkedLine.deleted marked).countP (Line.belongsTo .skipped) =
        (MarkedLine.deleted marked).countP Line.speaks := by
      refine List.countP_congr ?_
      intro bytes hbytes
      obtain ⟨line, hdecode, hline⟩ := herasable bytes hbytes
      rw [Line.belongsTo_skipped_of_erasable hdecode hline]
    refine ⟨?_, ?_⟩
    · rw [hlines, hlines', hwhole, hrest, MarkedLine.length_bytes, Nat.add_assoc]
    · rw [hskipped, hskipped', hwhole, hrest, MarkedLine.countP_bytes, hspeaking, Nat.add_assoc]

/-- A session with an open package and messages that it remembers reads a file with lines of every
kind. The line that has a single token and remains is the eighth of the file, and the second one of
what is left. -/
theorem readDefinitions_erased_every_kind :
    let s : Session :=
      { Session.start .rustModule { lint := true } (.upTo 600) with
        started := true
        scope := some "p"
        defined := [(some "p", "m")] }
    let stay (text : String) : MarkedLine := ⟨Utf8.encode text, true⟩
    let drop (text : String) : MarkedLine := ⟨Utf8.encode text, false⟩
    let marked := [stay "m x", drop "", drop " # \"", drop "package", drop "a b c", drop "q \"",
      drop "w \"\x7b\"", stay "lone", stay "package r", stay "m \"\x7b2\x7d\""]
    let whole := Utf8.encode
      "m x\n\n # \"\npackage\na b c\nq \"\nw \"\x7b\"\nlone\r\npackage r\nm \"\x7b2\x7d\""
    let rest := Utf8.encode "m x\nlone\npackage r\nm \"\x7b2\x7d\"\n"
    let o := s.readDefinitions (.ok whole)
    let p := s.readDefinitions (.ok rest)
    o.failure = none ∧ p.written = o.written ∧ p.failure = o.failure ∧
      .lineIgnored 8 1 ∈ o.notices ∧ .lineIgnored 2 1 ∈ p.notices ∧
      p.notices = o.notices.filterMap (Notice.renumber? (MarkedLine.newNumber? marked)) ∧
      (MarkedLine.deleted marked).length = 6 ∧ (MarkedLine.deleted marked).countP Line.speaks = 4 ∧
      o.session.summary.lines = p.session.summary.lines + (MarkedLine.deleted marked).length ∧
      o.session.summary.skipped =
        p.session.summary.skipped + (MarkedLine.deleted marked).countP Line.speaks := by
  intro s stay drop marked whole rest
  dsimp only
  have herasable : ∀ bytes ∈ MarkedLine.deleted marked,
      ∃ line, Utf8.decode? bytes = some line ∧ Line.Erasable line := by
    have hdeleted : MarkedLine.deleted marked =
        ["", " # \"", "package", "a b c", "q \"", "w \"\x7b\""].map Utf8.encode := by
      decide +kernel
    rw [hdeleted]
    intro bytes hbytes
    obtain ⟨line, hline, rfl⟩ := List.mem_map.mp hbytes
    refine ⟨line, Utf8.decode_encode line, ?_⟩
    simp only [List.mem_cons, List.not_mem_nil, or_false] at hline
    rcases hline with rfl | rfl | rfl | rfl | rfl | rfl
    · exact .silent (by decide +kernel)
    · exact .silent (by decide +kernel)
    · exact .unnamedPackage (by decide +kernel)
    · have htokens : Line.tokens "a b c" = .ok ["a", "b", "c"] := by decide +kernel
      exact .unpaired htokens (by decide) (by decide)
    · have htokens : Line.tokens "q \"" = .error (.unterminatedQuote 3) := by decide +kernel
      exact .unterminated htokens
    · have htokens : Line.tokens "w \"\x7b\"" = .ok ["w", "\x7b"] := by decide +kernel
      have hrefused : Template.read "\x7b" = .error ⟨1, .neverClosed⟩ := by decide +kernel
      exact .refused htokens (by decide) hrefused
  have hwhole : Line.split whole = marked.map MarkedLine.bytes := by decide +kernel
  have hrest : Line.split rest = MarkedLine.remaining marked := by decide +kernel
  have hnone : (s.readDefinitions (.ok whole)).failure = none := by decide +kernel
  obtain ⟨-, hwritten, hfailure, -, -, hnotices, hcounters⟩ :=
    readDefinitions_erased s marked whole rest rfl hwhole hrest herasable
  exact ⟨hnone, hwritten, hfailure, by decide +kernel, by decide +kernel, hnotices,
    by decide +kernel, by decide +kernel, hcounters hnone⟩

end Phrasebook
