import Phrasebook.Proofs.Reference
import Phrasebook.Proofs.Session.Causes
import Phrasebook.Proofs.Session.Coupling

/-!
# Strict and lenient compilations

A malformed line is skipped if the options are lenient, with a notice, and ends the run if they
are strict. The strict run is nothing else than the lenient one, cut where that one is about
to tell that it skips a line. What the strict run has reported and written is what the lenient
one had reported and written up to there.

The two compete with other reasons to fail: bytes that are no text, and a sink that refuses a
chunk. Such a failure ends both runs alike, if it comes before the first malformed line.

## Main results

* `strictCoupling`: the strict run is coupled to the lenient one.
* `compile_strict_cases`: the two compilations leave the same trace, or the strict one ends
  where the lenient one skips the first malformed line.
* `compile_strict_cuts`: a strict compilation is the lenient one, cut at the first malformed
  line.
-/

namespace Phrasebook

/-- No malformed line was skipped along a trace. -/
def SkipsNothing (trace : List Event) : Prop :=
  ∀ number error, .notice (.lineSkipped number error) ∉ trace

namespace SkipsNothing

variable {es : List Event}

/-- A trace goes on without skipping a line. -/
theorem append (h : SkipsNothing es) {new : List Event} (hnew : SkipsNothing new) :
    SkipsNothing (es ++ new) := by
  intro number error hmem
  rcases List.mem_append.mp hmem with hold | hadded
  · exact h number error hold
  · exact hnew number error hadded

/-- A chunk is no skipped line. -/
theorem singleton {e : Event} (he : e.notice? = none) : SkipsNothing [e] := by
  intro number error hmem
  rw [← List.mem_singleton.mp hmem] at he
  exact absurd he (by simp [Event.notice?])

/-- Notices of another kind skip nothing. -/
theorem notices (ns : List Notice) (hns : ∀ number error, .lineSkipped number error ∉ ns) :
    SkipsNothing (ns.map .notice) := by
  intro number error hmem
  obtain ⟨n, hn, heq⟩ := List.mem_map.mp hmem
  obtain rfl := Event.notice.inj heq
  exact hns number error hn

end SkipsNothing

/-- The two sessions differ in strictness only, and no malformed line has been met so far. -/
structure Lenient (s : Session) (es : List Event) (t : Session) (fs : List Event) : Prop where
  trace : fs = es
  lenient : s.options.strict = false
  session : t = { s with options := { s.options with strict := true } }
  skips : SkipsNothing es

/-- The strict run has ended where the lenient one skips the first malformed line. -/
def CutByMalformed (es : List Event) (p : Outcome) : Prop :=
  ∃ past number error rest, es = past ++ .notice (.lineSkipped number error) :: rest ∧
    SkipsNothing past ∧ p.trace = past ∧ p.failure = some (.malformed number error)

namespace Lenient

variable {s t : Session} {es fs : List Event}

/-- The runs stay in step if both sessions change alike, apart from strictness, and no line is
skipped. -/
theorem change (h : Lenient s es t fs) {s' t' : Session} {new : List Event}
    (hnew : SkipsNothing new) (hoptions : s'.options = s.options)
    (hsession : t' = { s' with options := { s'.options with strict := true } }) :
    Lenient s' (es ++ new) t' (fs ++ new) :=
  ⟨by rw [h.trace], by rw [hoptions, h.lenient], hsession, h.skips.append hnew⟩

/-- A malformed line is skipped by the lenient run and ends the strict one. -/
theorem reject (h : Lenient s es t fs) (number : Nat) (error : Malformed) :
    Coupled Lenient CutByMalformed ((s.reject number error).after es)
      ((t.reject number error).after fs) := by
  obtain ⟨rfl, hlenient, rfl, hskips⟩ := h
  refine .parted ⟨fs, number, error, [], ?_, hskips, ?_, ?_⟩
  · rw [Session.reject, if_neg (by simp [hlenient])]
    rfl
  · rw [Session.reject, if_pos rfl]
    exact List.append_nil fs
  · rw [Session.reject, if_pos rfl]
    rfl

end Lenient

/-- The strict run goes along with the lenient one until the first malformed line. -/
def strictCoupling : Coupling where
  InStep := Lenient
  Cut := CutByMalformed
  progress_eq h := by
    rw [h.session]
    rfl
  inStep_withProgress {s t es fs} v h := by
    refine ⟨h.trace, h.lenient, ?_, h.skips⟩
    rw [h.session]
    rfl
  cut_failure := by
    rintro es p ⟨past, number, error, rest, -, -, -, hfailure⟩
    simp [hfailure]
  cut_append := by
    rintro es p fs ⟨past, number, error, rest, rfl, hcut⟩
    exact ⟨past, number, error, rest ++ fs, by simp, hcut⟩
  inStep_report {s t es fs n} h hn := by
    refine h.change (.notices [n] ?_) rfl h.session
    intro number error hmem
    rw [← List.mem_singleton.mp hmem] at hn
    exact absurd hn (by simp [Notice.isRoutine])
  write chunk h := .write_alike chunk (by rw [h.session]) (by rw [h.session]) fun sink e he =>
    h.change (.singleton he) rfl (by rw [h.session])
  examine {s t es fs} m h := by
    refine .examine_alike m (by rw [h.session]) (by rw [h.session]) (by rw [h.session]) h ?_
    intro defined ns hns
    refine h.change (.notices ns ?_) rfl (by rw [h.session])
    intro number error hmem
    exact absurd (hns _ hmem) (by simp [Notice.isLint])
  reject number error h := h.reject number error

/-! ### Compiling -/

/-- The strict compilation leaves the same trace as the lenient one, or it ends where that one
skips the first malformed line. -/
theorem compile_strict_cases (admission : Admission) (options : Options) (output : Option Path)
    (source : Except AccessError Bytes) :
    let lenient := compile admission { options with strict := false } output source
    let strict := compile admission { options with strict := true } output source
    (strict.trace = lenient.trace ∧ strict.failure = lenient.failure ∧
        strict.result = lenient.result ∧ SkipsNothing lenient.trace) ∨
      CutByMalformed lenient.trace strict := by
  intro lenient strict
  have hholds : strictCoupling.Holds lenient strict :=
    Coupling.holds_compile source ⟨rfl, rfl, rfl, .notices [.targetSelected _] (by simp)⟩
  obtain ⟨h, hfailure, hresult⟩ | hcut := hholds.cases
  · exact .inl ⟨h.trace, hfailure, hresult, h.skips⟩
  · exact .inr hcut

/-- A notice was given if it stands in the trace. -/
theorem Outcome.mem_notices {o : Outcome} {n : Notice} : n ∈ o.notices ↔ .notice n ∈ o.trace := by
  rw [notices, List.mem_filterMap]
  refine ⟨?_, fun h => ⟨.notice n, h, rfl⟩⟩
  rintro ⟨e, he, hn⟩
  cases e with
  | stored chunk => exact absurd hn (by simp [Event.notice?])
  | refused chunk => exact absurd hn (by simp [Event.notice?])
  | notice n' =>
      obtain rfl : n' = n := Option.some.inj hn
      exact he

/-- A malformed line whose tokens can be read has two of them. -/
theorem Reference.length_of_malformed? {line : String} {error : Malformed} {tokens : List String}
    (h : malformed? line = some error) (htokens : Line.tokens line = .ok tokens) :
    tokens.length = 2 := by
  rw [malformed?, htokens] at h
  split at h
  next herror => exact absurd herror (by simp)
  next first second hpair =>
    obtain rfl := Except.ok.inj hpair
    rfl
  next => exact absurd h (by simp)

/-- A compilation that fails because of a malformed line fails at a line that is malformed. -/
theorem compile_malformed_line {admission : Admission} {options : Options}
    {output : Option Path} {source : Except AccessError Bytes} {number : Nat} {error : Malformed}
    (h : (compile admission options output source).failure = some (.malformed number error)) :
    ∃ bytes i line, source = .ok bytes ∧ number = i + 1 ∧
      (Line.split bytes)[i]?.bind Utf8.decode? = some line ∧
      Reference.malformed? line = some error ∧
      ∀ tokens, Line.tokens line = .ok tokens → tokens.length = 2 := by
  obtain ⟨-, bytes, i, line, hsource, hnumber, hline, herror⟩ := compile_failure_malformed h
  obtain ⟨error', hmalformed, -, hentry⟩ | ⟨-, entry, hentry, -⟩ := Reference.ofLine_cases line
  · obtain rfl := Except.error.inj (herror.symm.trans hentry)
    refine ⟨bytes, i, line, hsource, hnumber, hline, hmalformed, ?_⟩
    intro tokens htokens
    exact Reference.length_of_malformed? hmalformed htokens
  · exact absurd (herror.symm.trans hentry) (by simp)

/-- **A strict compilation is the lenient one, cut at the first malformed line.** Take a
compilation with lenient options and one with strict options that are otherwise the same, for
any file and any sink.

* If the lenient run skips no malformed line, both have the same result, the same notices and
  the same text.
* Otherwise the strict run fails with the number of the first line that the lenient run skips
  and with what is wrong with it. Its notices are those before that one, and its text is what
  the lenient run had written by then: no package is closed, and no end is added.
* So the strict run fails because of a malformed line exactly if the lenient run skips one. It
  does so at a line that is malformed, and never because of a wrong number of tokens. -/
theorem compile_strict_cuts (admission : Admission) (options : Options) (output : Option Path)
    (source : Except AccessError Bytes) :
    let layout := Layout.select options output
    let lenient := compile admission { options with strict := false } output source
    let strict := compile admission { options with strict := true } output source
    ((∀ number error, .lineSkipped number error ∉ lenient.notices) →
      strict.result = lenient.result ∧ strict.notices = lenient.notices ∧
        strict.written = lenient.written) ∧
    ((∃ number error, .lineSkipped number error ∈ lenient.notices) →
      ∃ past number error rest,
        lenient.trace = past ++ .notice (.lineSkipped number error) :: rest ∧ SkipsNothing past ∧
        strict.failure = some (.malformed number error) ∧
        strict.notices = past.filterMap Event.notice? ∧
        strict.written = layout.spelling (storedChunks past) ∧
        lenient.written = strict.written ++ layout.spelling (storedChunks rest)) ∧
    ((∃ number error, strict.failure = some (.malformed number error)) ↔
      ∃ number error, .lineSkipped number error ∈ lenient.notices) ∧
    ∀ number error, strict.failure = some (.malformed number error) →
      ∃ bytes i line, source = .ok bytes ∧ number = i + 1 ∧
        (Line.split bytes)[i]?.bind Utf8.decode? = some line ∧
        Reference.malformed? line = some error ∧
        ∀ tokens, Line.tokens line = .ok tokens → tokens.length = 2 := by
  intro layout lenient strict
  have hlenient : lenient.written = layout.spelling (storedChunks lenient.trace) :=
    Reference.compile_written _ _ _ _
  have hstrict : strict.written = layout.spelling (storedChunks strict.trace) :=
    Reference.compile_written _ _ _ _
  obtain ⟨htrace, hfailure, hresult, hskips⟩ |
      ⟨past, number, error, rest, htrace, hpast, hends, hfailure⟩ :=
    compile_strict_cases admission options output source
  · have hnone : ∀ number error, .lineSkipped number error ∉ lenient.notices :=
      fun number error hmem => hskips number error (Outcome.mem_notices.mp hmem)
    refine ⟨?_, ?_, ⟨?_, ?_⟩, fun _ _ => compile_malformed_line⟩
    · intro _
      refine ⟨hresult, ?_, ?_⟩
      · rw [Outcome.notices, Outcome.notices, htrace]
      · rw [hstrict, hlenient, htrace]
    · rintro ⟨number, error, hmem⟩
      exact absurd hmem (hnone number error)
    · rintro ⟨number, error, hmalformed⟩
      exact absurd (compile_failure_malformed (hfailure ▸ hmalformed)).1 (by simp)
    · rintro ⟨number, error, hmem⟩
      exact absurd hmem (hnone number error)
  · have hmem : .lineSkipped number error ∈ lenient.notices := by
      rw [Outcome.mem_notices, htrace]
      exact List.mem_append_right past List.mem_cons_self
    refine ⟨fun hnone => absurd hmem (hnone number error), ?_, ?_, fun _ _ => compile_malformed_line⟩
    · intro _
      refine ⟨past, number, error, rest, htrace, hpast, hfailure, ?_, ?_, ?_⟩
      · rw [Outcome.notices, hends]
      · rw [hstrict, hends]
      · rw [hlenient, hstrict, htrace, hends, storedChunks_append, Layout.spelling_append]
        rfl
    · exact ⟨fun _ => ⟨number, error, hmem⟩, fun _ => ⟨number, error, hfailure⟩⟩

/-- A file with a line of three tokens, which is ignored, and a malformed line after it, on a
sink of limited size; and the file without the malformed line. -/
theorem compile_strict_cuts_unpaired_brace :
    let compileWith := fun strict text =>
      compile (.upTo 400) { strict } none (.ok (Utf8.encode text))
    let lenient := compileWith false "package p\na b c\nend \"\x7b\"\nd e\n"
    let strict := compileWith true "package p\na b c\nend \"\x7b\"\nd e\n"
    ((∀ number error, .lineSkipped number error ∉ (compileWith false "package p\na b c\n").notices) ∧
      (compileWith true "package p\na b c\n").result =
        (compileWith false "package p\na b c\n").result) ∧
    ((∃ number error, .lineSkipped number error ∈ lenient.notices) ∧
      ∃ past number error rest,
        lenient.trace = past ++ .notice (.lineSkipped number error) :: rest ∧ SkipsNothing past ∧
        strict.failure = some (.malformed number error) ∧
        lenient.written = strict.written ++ (Layout.select {} none).spelling (storedChunks rest)) ∧
    ∃ number error, strict.failure = some (.malformed number error) ∧
      ∃ line, Reference.malformed? line = some error := by
  intro compileWith lenient strict
  have hclean : (compileWith false "package p\na b c\n").notices =
      [.targetSelected .cpp, .openingPackage "p", .lineIgnored 2 3] := by decide +kernel
  have hnone : ∀ number error,
      .lineSkipped number error ∉ (compileWith false "package p\na b c\n").notices := by
    intro number error
    rw [hclean]
    simp
  have hskip : ∃ number error, .lineSkipped number error ∈ lenient.notices :=
    ⟨3, .invalidTemplate ⟨1, .neverClosed⟩, by decide +kernel⟩
  have hsame := compile_strict_cuts (.upTo 400) {} none (.ok (Utf8.encode "package p\na b c\n"))
  obtain ⟨-, hcuts, hiff, hline⟩ := compile_strict_cuts (.upTo 400) {} none
    (.ok (Utf8.encode "package p\na b c\nend \"\x7b\"\nd e\n"))
  obtain ⟨past, number, error, rest, htrace, hpast, hfailure, -, -, hwritten⟩ := hcuts hskip
  obtain ⟨number', error', hfails⟩ := hiff.mpr hskip
  obtain ⟨-, -, line, -, -, -, hmalformed, -⟩ := hline number' error' hfails
  exact ⟨⟨hnone, (hsame.1 hnone).1⟩,
    ⟨hskip, past, number, error, rest, htrace, hpast, hfailure, hwritten⟩,
    number', error', hfails, line, hmalformed⟩

end Phrasebook
