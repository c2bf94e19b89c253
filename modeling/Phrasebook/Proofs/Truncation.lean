import Phrasebook.Proofs.Reference
import Phrasebook.Proofs.Session.Coupling

/-!
# Compiling for a sink of limited size

A sink that takes only so many bytes truncates what a compilation writes, and it does so
between two chunks: what is stored is the longest run of whole chunks, from the beginning,
that fits. This needs more of the compilation than of the sink. The sink may take a small
chunk after it has refused a large one, so every refusal has to end the run at once, however
deep in the steps of the session it occurs.

The run for the limited sink is compared with the run for a sink that takes everything. The
two are in step as long as everything fits (`Limited`), and the limited run is cut short
where the other one stores the first chunk that does not (`CutByLimit`).

## Main results

* `limitCoupling`: a run for a limited sink is coupled to the run for an unlimited one.
* `compile_upTo_cases`: the two compilations leave the same trace, or the limited one is
  refused the first chunk that does not fit.
* `compile_upTo_truncates`: a limited sink truncates a compilation between two chunks.
-/

namespace Phrasebook

/-! ### Sinks of limited size -/

namespace Sink

/-- A limited sink that has not stored too much takes a text if it still fits. An empty text
always does. -/
theorem takes_upTo_iff {sink : Sink} {limit : Nat} (text : String)
    (hrule : sink.admission = .upTo limit) (hstored : sink.stored ≤ limit) :
    sink.takes text = true ↔ sink.stored + text.utf8ByteSize ≤ limit := by
  rw [takes, hrule, Admission.upTo, Bool.or_eq_true, decide_eq_true_iff, String.isEmpty_iff]
  refine ⟨?_, .inr⟩
  rintro (rfl | hfits)
  · simpa using hstored
  · exact hfits

/-- What a sink has stored after it has taken a text. -/
theorem offer_stored {sink : Sink} {text : String} (h : sink.takes text = true) :
    (sink.offer text).stored = sink.stored + text.utf8ByteSize := by
  rw [offer]
  by_cases hempty : text.isEmpty = true
  · rw [if_pos hempty, String.isEmpty_iff.mp hempty]
    rfl
  · rw [if_neg hempty, if_pos h]

end Sink

/-! ### The coupling -/

/-- More chunks take more room. -/
theorem spelling_size_mono (layout : Layout) {cs ds : List Chunk} (h : cs <+: ds) :
    (layout.spelling cs).utf8ByteSize ≤ (layout.spelling ds).utf8ByteSize := by
  obtain ⟨rest, rfl⟩ := h
  rw [Layout.spelling_append, String.utf8ByteSize_append]
  exact Nat.le_add_right _ _

/-- The size of what has been stored along a trace, in bytes. -/
def storedSize (layout : Layout) (trace : List Event) : Nat :=
  (layout.spelling (storedChunks trace)).utf8ByteSize

/-- A stored chunk adds its own size. -/
theorem storedSize_stored (layout : Layout) (past : List Event) (chunk : Chunk) :
    storedSize layout (past ++ [.stored chunk]) =
      storedSize layout past + (layout.text chunk).utf8ByteSize := by
  rw [storedSize, storedChunks_snoc_stored, Layout.spelling_append, String.utf8ByteSize_append]
  simp [storedSize, Layout.spelling]

/-- The first session writes to a sink that takes everything, the second one to a limited sink,
and so far everything has fitted. -/
structure Limited (layout : Layout) (limit : Nat) (s : Session) (es : List Event) (t : Session)
    (fs : List Event) : Prop where
  trace : fs = es
  session : t = { s with sink := t.sink }
  spelled : s.layout = layout
  unlimited : s.sink.admission = .unlimited
  limited : t.sink.admission = .upTo limit
  stored : t.sink.stored = storedSize layout es
  fits : storedSize layout es ≤ limit

/-- The limited run has been refused the first chunk that does not fit. -/
def CutByLimit (layout : Layout) (limit : Nat) (es : List Event) (p : Outcome) : Prop :=
  ∃ past chunk rest, es = past ++ .stored chunk :: rest ∧ p.trace = past ++ [.refused chunk] ∧
    p.failure = some (.access .sinkFull) ∧ storedSize layout past ≤ limit ∧
    limit < storedSize layout (past ++ [.stored chunk])

/-- If a run has been cut short by the limit, the other one has stored more than fits. -/
theorem CutByLimit.overflows {layout : Layout} {limit : Nat} {es : List Event} {p : Outcome}
    (h : CutByLimit layout limit es p) : limit < storedSize layout es := by
  obtain ⟨past, chunk, rest, rfl, -, -, -, hover⟩ := h
  refine Nat.lt_of_lt_of_le hover (spelling_size_mono layout ⟨storedChunks rest, ?_⟩)
  rw [← storedChunks_append, List.append_assoc, List.singleton_append]

namespace Limited

variable {layout : Layout} {limit : Nat} {s t : Session} {es fs : List Event}

/-- The runs stay in step if both sessions change alike, apart from their sinks, and nothing but
notices is added to the traces. -/
theorem change (h : Limited layout limit s es t fs) {s' t' : Session} (ns : List Notice)
    (hsession : t' = { s' with sink := t.sink }) (hsink : s'.sink = s.sink)
    (hlayout : s'.layout = s.layout) :
    Limited layout limit s' (es ++ ns.map .notice) t' (fs ++ ns.map .notice) := by
  have hsize : storedSize layout (es ++ ns.map .notice) = storedSize layout es := by
    rw [storedSize, storedChunks_append, storedChunks_notices, List.append_nil, storedSize]
  subst hsession
  exact ⟨by rw [h.trace], rfl, hlayout.trans h.spelled, hsink ▸ h.unlimited, h.limited,
    hsize ▸ h.stored, hsize ▸ h.fits⟩

/-- A chunk that still fits is stored by both runs; the first one that does not is stored by the
one run and refused by the other. -/
theorem write (h : Limited layout limit s es t fs) (chunk : Chunk) :
    Coupled (Limited layout limit) (CutByLimit layout limit) ((s.write chunk).after es)
      ((t.write chunk).after fs) := by
  obtain ⟨rfl, ht, rfl, hunlimited, hlimited, hstored, hfits⟩ := h
  have hlayout : t.layout = s.layout := by rw [ht]
  have hsize := storedSize_stored s.layout fs chunk
  have htakes : s.sink.takes (s.layout.text chunk) = true := by
    simp [Sink.takes, hunlimited, Admission.unlimited]
  have htakes' := Sink.takes_upTo_iff (t.layout.text chunk) hlimited (hstored ▸ hfits)
  rw [hlayout, hstored, ← hsize] at htakes'
  rw [Session.write_of_takes htakes]
  by_cases hroom : storedSize s.layout (fs ++ [.stored chunk]) ≤ limit
  · have htook := htakes'.mpr hroom
    rw [Session.write_of_takes (hlayout ▸ htook)]
    refine .together none ⟨rfl, ?_, rfl, ?_, ?_, ?_, hroom⟩
    · rw [ht]
    · exact (Session.offer_admission _ _).trans hunlimited
    · exact (Session.offer_admission _ _).trans hlimited
    · change (t.sink.offer (t.layout.text chunk)).stored = _
      rw [hlayout, Sink.offer_stored htook, hstored, hsize]
  · rw [Session.write_of_not_takes (hlayout ▸ mt htakes'.mp hroom)]
    exact .parted ⟨fs, chunk, [], rfl, rfl, rfl, hfits, Nat.lt_of_not_le hroom⟩

end Limited

/-- A run for a limited sink goes along with the run for an unlimited one until the first chunk
that does not fit. -/
def limitCoupling (layout : Layout) (limit : Nat) : Coupling where
  InStep := Limited layout limit
  Cut := CutByLimit layout limit
  progress_eq h := by rw [h.session]; rfl
  inStep_withProgress {s t es fs} v h := by
    have hsession : t.withProgress v = { s.withProgress v with sink := t.sink } := by
      rw [h.session]
      rfl
    have hmoved := h.change [] hsession rfl rfl
    rwa [List.map_nil, List.append_nil, List.append_nil] at hmoved
  cut_failure := by
    rintro es p ⟨past, chunk, rest, -, -, hfailure, -⟩
    simp [hfailure]
  cut_append := by
    rintro es p fs ⟨past, chunk, rest, rfl, hcut⟩
    exact ⟨past, chunk, rest ++ fs, by simp, hcut⟩
  inStep_report {s t es fs n} h _ := h.change [n] h.session rfl rfl
  write chunk h := h.write chunk
  examine m h := .examine_alike m (by rw [h.session]) (by rw [h.session]) (by rw [h.session]) h
    fun defined ns _ => h.change ns (by rw [h.session]) rfl rfl
  reject number error h := .reject_alike number error (by rw [h.session]) h
    (h.change [.lineSkipped number error] (by rw [h.session]; rfl) rfl rfl)

/-! ### Compiling -/

/-- The compilation for a limited sink leaves the same trace as the one for an unlimited sink,
or it ends where the first chunk does not fit. -/
theorem compile_upTo_cases (limit : Nat) (options : Options) (output : Option Path)
    (source : Except AccessError Bytes) :
    let layout := Layout.select options output
    let full := compile .unlimited options output source
    let limited := compile (.upTo limit) options output source
    (limited.trace = full.trace ∧ limited.result = full.result ∧
        storedSize layout full.trace ≤ limit) ∨
      CutByLimit layout limit full.trace limited := by
  intro layout full limited
  have hholds : (limitCoupling layout limit).Holds full limited :=
    Coupling.holds_compile source ⟨rfl, rfl, rfl, rfl, rfl, rfl, Nat.zero_le limit⟩
  obtain ⟨h, -, hresult⟩ | hcut := hholds.cases
  · exact .inl ⟨h.trace, hresult, h.fits⟩
  · exact .inr hcut

/-- Whole chunks from the beginning that fit into a limit, and as many of them as possible. -/
structure LongestFit (layout : Layout) (limit : Nat) (chunks kept : List Chunk) : Prop where
  isPrefix : kept <+: chunks
  fits : (layout.spelling kept).utf8ByteSize ≤ limit
  longest : ∀ others, others <+: chunks → (layout.spelling others).utf8ByteSize ≤ limit →
    others.length ≤ kept.length

namespace LongestFit

variable {layout : Layout} {limit : Nat} {chunks kept : List Chunk}

/-- If everything fits, everything is kept. -/
theorem of_fits (h : (layout.spelling chunks).utf8ByteSize ≤ limit) :
    LongestFit layout limit chunks chunks :=
  ⟨List.prefix_rfl, h, fun _ hothers _ => hothers.length_le⟩

/-- The chunks before the first one that does not fit are kept. -/
theorem of_overflow {chunk : Chunk} {rest : List Chunk}
    (hfits : (layout.spelling kept).utf8ByteSize ≤ limit)
    (hover : limit < (layout.spelling (kept ++ [chunk])).utf8ByteSize) :
    LongestFit layout limit (kept ++ chunk :: rest) kept := by
  refine ⟨List.prefix_append _ _, hfits, ?_⟩
  intro others hothers hroom
  by_contra hlonger
  have hnext : kept ++ [chunk] <+: kept ++ chunk :: rest := ⟨rest, by simp⟩
  have hbeyond : kept ++ [chunk] <+: others :=
    List.prefix_of_prefix_length_le hnext hothers (by simp; omega)
  have := spelling_size_mono layout hbeyond
  omega

/-- With more room at least as much is kept. -/
theorem mono {limit' : Nat} {kept' : List Chunk} (h : LongestFit layout limit chunks kept)
    (h' : LongestFit layout limit' chunks kept') (hle : limit ≤ limit') : kept <+: kept' :=
  List.prefix_of_prefix_length_le h.isPrefix h'.isPrefix
    (h'.longest kept h.isPrefix (Nat.le_trans h.fits hle))

end LongestFit

/-- What a compilation writes to a limited sink is the longest fit. -/
theorem compile_upTo_longestFit (limit : Nat) (options : Options) (output : Option Path)
    (source : Except AccessError Bytes) :
    LongestFit (Layout.select options output) limit
      (compile .unlimited options output source).chunks
      (compile (.upTo limit) options output source).chunks := by
  obtain ⟨htrace, -, hfits⟩ | ⟨past, chunk, rest, hfull, hlimited, -, hfits, hover⟩ :=
    compile_upTo_cases limit options output source
  · rw [Outcome.chunks, Outcome.chunks, htrace]
    exact .of_fits hfits
  · rw [Outcome.chunks, Outcome.chunks, hfull, hlimited]
    change LongestFit _ _ (storedChunks _) (storedChunks _)
    rw [storedSize, storedChunks_snoc_stored] at hover
    rw [storedChunks_snoc_refused, storedChunks_append]
    exact .of_overflow hfits hover

/-- **A limited sink truncates a compilation between two chunks.** Compare the compilation for a
limited sink with the one for a sink that takes everything, whether that one succeeds or fails.
If all that the latter writes fits, the two have the same result, the same notices and the same
text. Otherwise the limited one fails because its sink is full, and its text is the longest
fit: whole chunks from the beginning, as many as there is room for. So with more room the text
only becomes longer at its end. -/
theorem compile_upTo_truncates (limit : Nat) (options : Options) (output : Option Path)
    (source : Except AccessError Bytes) :
    let layout := Layout.select options output
    let full := compile .unlimited options output source
    let limited := compile (.upTo limit) options output source
    (full.written.utf8ByteSize ≤ limit →
      limited.result = full.result ∧ limited.notices = full.notices ∧
        limited.written = full.written) ∧
    (limit < full.written.utf8ByteSize →
      limited.failure = some (.access .sinkFull) ∧
        ∃ kept, LongestFit layout limit full.chunks kept ∧ limited.written = layout.spelling kept) ∧
    ∀ limit', limit ≤ limit' →
      ∃ more, (compile (.upTo limit') options output source).written = limited.written ++ more := by
  intro layout full limited
  have hwritten (a : Admission) := Reference.compile_written a options output source
  have hsize : full.written.utf8ByteSize = storedSize layout full.trace := by
    rw [hwritten]
    rfl
  have hcases := compile_upTo_cases limit options output source
  have hfit := compile_upTo_longestFit limit options output source
  refine ⟨?_, ?_, ?_⟩
  · intro hroom
    obtain ⟨htrace, hresult, -⟩ | hcut := hcases
    · refine ⟨hresult, ?_, ?_⟩
      · rw [Outcome.notices, Outcome.notices, htrace]
      · rw [hwritten, hwritten, Outcome.chunks, Outcome.chunks, htrace]
    · exact absurd (hsize ▸ hroom) (Nat.not_le.mpr hcut.overflows)
  · intro hover
    obtain ⟨-, -, hfits⟩ | ⟨-, -, -, -, -, hfailure, -⟩ := hcases
    · exact absurd (hsize ▸ hover) (Nat.not_lt.mpr hfits)
    · exact ⟨hfailure, limited.chunks, hfit, hwritten _⟩
  · intro limit' hle
    obtain ⟨more, hmore⟩ := hfit.mono (compile_upTo_longestFit limit' options output source) hle
    refine ⟨layout.spelling more, ?_⟩
    rw [hwritten, ← hmore, Layout.spelling_append, ← hwritten]

/-- Two functions, of which the second one would fit after the first one has been refused: the
run ends all the same. With room for both the text is complete. -/
theorem compile_upTo_truncates_large_before_small :
    let options : Options := { target := .rust }
    let source := .ok (Utf8.encode "say \"good morning\"\nb c\n")
    let full := compile .unlimited options none source
    let limited := compile (.upTo 145) options none source
    (145 < full.written.utf8ByteSize ∧ limited.failure = some (.access .sinkFull) ∧
      ∃ kept, LongestFit (Layout.select options none) 145 full.chunks kept ∧
        limited.written = (Layout.select options none).spelling kept) ∧
    (full.written.utf8ByteSize ≤ 241 ∧
      (compile (.upTo 241) options none source).written = full.written) ∧
    (145 ≤ 241 ∧
      ∃ more, (compile (.upTo 241) options none source).written = limited.written ++ more) := by
  intro options source full limited
  have hover : 145 < full.written.utf8ByteSize := by decide +kernel
  have hroom : full.written.utf8ByteSize ≤ 241 := by decide +kernel
  have hle : 145 ≤ 241 := by decide
  have hsmall := compile_upTo_truncates 145 options none source
  have hlarge := compile_upTo_truncates 241 options none source
  exact ⟨⟨hover, hsmall.2.1 hover⟩, ⟨hroom, (hlarge.1 hroom).2.2⟩, hle, hsmall.2.2 241 hle⟩

end Phrasebook
