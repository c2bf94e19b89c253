import Mathlib.Data.List.Chain
import Phrasebook.Proofs.Template.Meaning
import Phrasebook.Proofs.Template.Normal

/-!
# The messages of templates

Not every message comes from a template. One that does takes as many arguments as its body requires
and no more than the bound, so it uses the last of them; its literals are not empty and have no
double quotes; and no literal follows another one, because the reader only ends a stretch of text at
a placeholder or at the end of the template. These properties are the *normal form* of messages.
They are found at different places, in the reader, in the bound on indices and where segments are
taken apart, and nothing is missing from them: every message in normal form comes from a template.

Between the arguments that a message takes and those that its body refers to there may be gaps.
The arguments in the gaps are the unused ones. They are found by leaving out the ones that are used,
so they are in ascending order, and the used and the unused arguments together are all that the
message takes.

## Main results

* `Template.Normal.message`: the message of segments in normal form is in normal form.
* `Message.Normal.exists_read`: a message in normal form comes from a template.
* `messages_have_normal_form`: normal forms are the messages of templates, and which arguments they
  use.
-/

namespace Phrasebook

/-- Whether a part is a literal. -/
def Part.isLiteral : Part → Bool
  | .literal _ => true
  | .argument _ => false

/-- The index of an element, if it is a placeholder. -/
def Template.Element.index? : Template.Element → Option Nat
  | .glyph _ => none
  | .placeholder p => some p.index

namespace Message

/-- The arguments that the body of a message refers to, in the order of its parts. -/
def references (m : Message) : List Nat :=
  m.body.filterMap Part.argument?

/-- The form of messages that come from templates: they take a bounded number of arguments, they
take the arguments that they refer to, they use the last one that they take, no literal is empty or
has a double quote, and no literal follows another one. -/
structure Normal (m : Message) : Prop where
  arity_le : m.arity ≤ 1024
  index_lt : ∀ i ∈ m.references, i < m.arity
  last_used : 0 < m.arity → m.arity - 1 ∈ m.references
  literals : ∀ text, Part.literal text ∈ m.body → text ≠ "" ∧ '"' ∉ text.toList
  apart : m.body.IsChain fun p q => ¬ (p.isLiteral = true ∧ q.isLiteral = true)

/-! ### Used and unused arguments -/

/-- A message refers to the arguments that are parts of its body. -/
theorem mem_references_iff {m : Message} {i : Nat} :
    i ∈ m.references ↔ Part.argument i ∈ m.body := by
  rw [references, List.mem_filterMap]
  constructor
  · rintro ⟨part, hpart, hi⟩
    cases part with
    | literal text => cases hi
    | argument j =>
        obtain rfl : j = i := Option.some.inj hi
        exact hpart
  · intro h
    exact ⟨.argument i, h, rfl⟩

/-- A message uses the arguments that it refers to. -/
theorem uses_iff {m : Message} {i : Nat} : m.uses i = true ↔ i ∈ m.references := by
  simp [uses, references]

/-- An argument is unused if the message takes it and does not refer to it. -/
theorem mem_unused_iff {m : Message} {i : Nat} :
    i ∈ m.unused ↔ i < m.arity ∧ i ∉ m.references := by
  rw [unused, List.mem_filter, arguments, List.mem_range, Bool.not_eq_eq_eq_not, Bool.not_true,
    Bool.eq_false_iff, ne_eq, uses_iff]

/-- The unused arguments are in ascending order. -/
theorem unused_pairwise (m : Message) : m.unused.Pairwise (· < ·) :=
  List.pairwise_lt_range.filter _

end Message

/-! ### From segments to messages -/

namespace Template

/-- Every index is below the number of arguments. -/
theorem lt_arity_of_mem {segments : List Segment} {i : Nat}
    (h : i ∈ segments.filterMap Segment.index) : i < arity segments :=
  arity_le_iff.mp le_rfl i h

/-- The highest index occurs. -/
theorem arity_pred_mem {segments : List Segment} (h : 0 < arity segments) :
    arity segments - 1 ∈ segments.filterMap Segment.index := by
  by_contra hnone
  have hle : arity segments ≤ arity segments - 1 := by
    refine arity_le_iff.mpr fun i hi => ?_
    have hlt := lt_arity_of_mem hi
    have hne : i ≠ arity segments - 1 := fun heq => hnone (heq ▸ hi)
    omega
  omega

/-- A literal among the parts of a segment is that of the segment, and not empty. -/
theorem literal_mem_parts {s : Segment} {text : String} (h : Part.literal text ∈ s.parts) :
    text = s.literal ∧ text ≠ "" := by
  simp only [Segment.parts, List.mem_append, List.mem_map, reduceCtorEq, and_false, exists_false,
    or_false] at h
  split at h
  next => exact absurd h List.not_mem_nil
  next hne =>
    obtain rfl := Part.literal.inj (List.mem_singleton.mp h)
    exact ⟨rfl, hne⟩

/-- No literal of the parts of a normal form follows another one: the parts of a segment with an
index end with its argument, and the only segment without an index comes last. -/
theorem Normal.isChain_parts {segments : List Segment} (h : Normal segments) :
    (segments.flatMap Segment.parts).IsChain
      fun p q => ¬ (p.isLiteral = true ∧ q.isLiteral = true) := by
  induction segments with
  | nil => exact .nil
  | cons s rest ih =>
      obtain ⟨literal, index⟩ := s
      rw [List.flatMap_cons]
      cases index with
      | none =>
          obtain rfl : rest = [] := h.eq_nil_of_index rfl
          by_cases hempty : literal = "" <;> simp [Segment.parts, hempty]
      | some i =>
          refine List.isChain_append.mpr ⟨?_, ih h.tail, ?_⟩
          · by_cases hempty : literal = "" <;> simp [Segment.parts, hempty, Part.isLiteral]
          · rintro p hp q -
            obtain rfl : Part.argument i = p := by
              simpa [Segment.parts] using hp
            simp [Part.isLiteral]

/-- **The message of segments in normal form is in normal form.** -/
theorem Normal.message {segments : List Segment} (h : Normal segments) (name : String) :
    (Message.ofSegments name segments).Normal := by
  have hreferences : (Message.ofSegments name segments).references =
      segments.filterMap Segment.index := filterMap_argument?_parts segments
  refine ⟨?_, ?_, ?_, ?_, h.isChain_parts⟩
  · refine arity_le_iff.mpr fun i hi => ?_
    obtain ⟨s, hs, hindex⟩ := List.mem_filterMap.mp hi
    exact h.bounded s hs i hindex
  · rw [hreferences]
    exact fun i => lt_arity_of_mem
  · rw [hreferences]
    exact arity_pred_mem
  · intro text htext
    obtain ⟨s, hs, hmem⟩ := List.mem_flatMap.mp htext
    obtain ⟨rfl, hne⟩ := literal_mem_parts hmem
    exact ⟨hne, h.unquoted s hs⟩

/-! ### From messages to segments -/

/-- The parts of what is gathered are those that it was gathered from, if no literal is empty. -/
theorem flatMap_parts_gather {body : List Part} (h : Part.literal "" ∉ body) :
    (gather body).flatMap Segment.parts = body := by
  fun_induction gather body with
  | case1 => rfl
  | case2 index rest ih =>
      rw [List.flatMap_cons, ih fun hmem => h (List.mem_cons_of_mem _ hmem)]
      rfl
  | case3 text index rest ih =>
      have hne : text ≠ "" := by
        rintro rfl
        exact h List.mem_cons_self
      rw [List.flatMap_cons,
        ih fun hmem => h (List.mem_cons_of_mem _ (List.mem_cons_of_mem _ hmem))]
      simp [Segment.parts, hne]
  | case4 text rest _ ih =>
      have hne : text ≠ "" := by
        rintro rfl
        exact h List.mem_cons_self
      rw [List.flatMap_cons, ih fun hmem => h (List.mem_cons_of_mem _ hmem)]
      simp [Segment.parts, hne]

/-- Parts are gathered into a normal form if no literal is empty, has a double quote or follows
another one, and every index is below the bound. A literal that no argument follows is then the
last part. -/
theorem normal_gather {body : List Part}
    (hliterals : ∀ text, Part.literal text ∈ body → text ≠ "" ∧ '"' ∉ text.toList)
    (hbound : ∀ i, Part.argument i ∈ body → i < indexBound)
    (hapart : body.IsChain fun p q => ¬ (p.isLiteral = true ∧ q.isLiteral = true)) :
    Normal (gather body) := by
  fun_induction gather body with
  | case1 => exact ⟨by simp, by simp, by simp, by simp⟩
  | case2 index rest ih =>
      have hrest := ih (fun text htext => hliterals text (List.mem_cons_of_mem _ htext))
        (fun i hi => hbound i (List.mem_cons_of_mem _ hi)) hapart.tail
      exact hrest.cons (by simp) (hbound index List.mem_cons_self)
  | case3 text index rest ih =>
      have hinner {part : Part} (hpart : part ∈ rest) :
          part ∈ Part.literal text :: Part.argument index :: rest :=
        List.mem_cons_of_mem _ (List.mem_cons_of_mem _ hpart)
      have hrest := ih (fun text htext => hliterals text (hinner htext))
        (fun i hi => hbound i (hinner hi)) hapart.tail.tail
      exact hrest.cons (hliterals text List.mem_cons_self).2 (hbound index (by simp))
  | case4 text rest hrest ih =>
      obtain ⟨hne, hunquoted⟩ := hliterals text List.mem_cons_self
      obtain rfl : rest = [] := by
        rcases rest with - | ⟨text' | index, others⟩
        · rfl
        · exact absurd ⟨rfl, rfl⟩ (List.isChain_cons_cons.mp hapart).1
        · exact (hrest index others rfl).elim
      exact normal_singleton hunquoted hne

end Template

/-- **A message in normal form comes from a template.** -/
theorem Message.Normal.exists_read {m : Message} (h : m.Normal) :
    ∃ source segments, Template.read source = .ok segments ∧ ofSegments m.name segments = m := by
  let segments := Template.gather m.body
  have hbound : ∀ i, Part.argument i ∈ m.body → i < Template.indexBound := by
    intro i hi
    exact Nat.lt_of_lt_of_le (h.index_lt i (mem_references_iff.mpr hi)) h.arity_le
  have hparts : segments.flatMap Segment.parts = m.body :=
    Template.flatMap_parts_gather fun hempty => (h.literals "" hempty).1 rfl
  have hindices : segments.filterMap Segment.index = m.references := by
    rw [← Template.filterMap_argument?_parts, hparts, references]
  have harity : Template.arity segments = m.arity := by
    refine Nat.le_antisymm (Template.arity_le_iff.mpr ?_) ?_
    · rw [hindices]
      exact h.index_lt
    · rcases Nat.eq_zero_or_pos m.arity with hzero | hpos
      · rw [hzero]
        exact Nat.zero_le _
      · have hlast := Template.lt_arity_of_mem (hindices ▸ h.last_used hpos)
        omega
  refine ⟨Template.print segments, segments,
    Template.read_print (Template.normal_gather h.literals hbound h.apart), ?_⟩
  rw [ofSegments, harity, hparts]

/-! ### References and placeholders -/

namespace Template

/-- No glyph has an index. -/
theorem filterMap_index?_glyphs (glyphs : List Glyph) :
    (glyphs.map Element.glyph).filterMap Element.index? = [] := by
  rw [List.filterMap_map]
  exact List.filterMap_eq_nil_iff.mpr fun _ _ => rfl

/-- The segment after the last placeholder has no index. -/
theorem filterMap_index_lastSegment (glyphs : List Glyph) :
    (lastSegment glyphs).filterMap Segment.index = [] := by
  rw [lastSegment]
  split <;> rfl

/-- A stretch has the index of its placeholder. -/
theorem filterMap_index_stretches (row : List Stretch) :
    (row.map Stretch.segment).filterMap Segment.index =
      (row.flatMap Stretch.elements).filterMap Element.index? := by
  induction row with
  | nil => rfl
  | cons s row ih =>
      rw [List.map_cons, List.filterMap_cons, ih, List.flatMap_cons, List.filterMap_append,
        Stretch.elements, List.filterMap_append, filterMap_index?_glyphs]
      rfl

/-- The indices of the segments of elements are those of the placeholders, in the same order. -/
theorem filterMap_index_segmentsOf (elements : List Element) :
    (segmentsOf elements).filterMap Segment.index = elements.filterMap Element.index? := by
  calc (segmentsOf elements).filterMap Segment.index
      = (assemble (stretches elements).1 (stretches elements).2).filterMap Element.index? := by
        rw [segmentsOf, List.filterMap_append, filterMap_index_lastSegment,
          filterMap_index_stretches, assemble, List.filterMap_append, filterMap_index?_glyphs]
    _ = elements.filterMap Element.index? := by rw [assemble_stretches]

end Template

/-! ### The main result -/

/-- **The messages of templates are those in normal form.** Take any template that is accepted, and
the message that it makes under any name.

* It takes at most 1024 arguments, among them all those that it refers to. If it takes any, it refers
  to the last one, which is therefore not unused. No literal is empty, has a double quote or follows
  another one.
* It refers to the placeholders of the template, in the same order.
* Its unused arguments are in ascending order. Every argument that it takes is either unused or
  referred to, and no other number is.

Conversely, every message in normal form is the message of a template. -/
theorem messages_have_normal_form :
    (∀ (source name : String) (segments : List Segment), Template.read source = .ok segments →
      let m := Message.ofSegments name segments
      m.Normal ∧ (0 < m.arity → m.arity - 1 ∉ m.unused) ∧
      (∃ elements, Template.spell elements = source ∧
        m.references = elements.filterMap Template.Element.index?) ∧
      m.unused.Pairwise (· < ·) ∧
      ∀ i, (i < m.arity ↔ i ∈ m.unused ∨ i ∈ m.references) ∧
        ¬ (i ∈ m.unused ∧ i ∈ m.references)) ∧
    ∀ m : Message, m.Normal ↔
      ∃ source segments, Template.read source = .ok segments ∧
        Message.ofSegments m.name segments = m := by
  refine ⟨?_, fun m => ⟨Message.Normal.exists_read, ?_⟩⟩
  · intro source name segments h m
    have hnormal : m.Normal := (Template.normal_of_read h).message name
    refine ⟨hnormal, ?_, ?_, m.unused_pairwise, fun i => ⟨⟨?_, ?_⟩, ?_⟩⟩
    · intro hpos hunused
      exact (Message.mem_unused_iff.mp hunused).2 (hnormal.last_used hpos)
    · obtain ⟨elements, rfl⟩ := Template.exists_spell_of_read h
      obtain rfl := Except.ok.inj ((Template.read_spell elements).symm.trans h)
      refine ⟨elements, rfl, ?_⟩
      rw [← Template.filterMap_index_segmentsOf]
      exact Template.filterMap_argument?_parts _
    · intro hi
      by_cases hused : i ∈ m.references
      · exact .inr hused
      · exact .inl (Message.mem_unused_iff.mpr ⟨hi, hused⟩)
    · rintro (hunused | hused)
      · exact (Message.mem_unused_iff.mp hunused).1
      · exact hnormal.index_lt i hused
    · rintro ⟨hunused, hused⟩
      exact (Message.mem_unused_iff.mp hunused).2 hused
  · rintro ⟨source, segments, hread, hm⟩
    rw [← hm]
    exact (Template.normal_of_read hread).message m.name

/-- A template that refers to its arguments out of order, one of them twice, with a gap, and with
doubled braces and a quote between the stretches of text; and a message with two literals in a row,
which no template makes. -/
theorem messages_have_normal_form_gap :
    let source := "\x7b4\x7da\x7b\x7b\"b\x7b01\x7d\x7b4!r\x7d"
    let segments : List Segment := [⟨"", some 4⟩, ⟨"a\x7bb", some 1⟩, ⟨"", some 4⟩]
    let m := Message.ofSegments "m" segments
    Template.read source = .ok segments ∧ m.Normal ∧
      m.body = [.argument 4, .literal "a\x7bb", .argument 1, .argument 4] ∧
      (0 < m.arity ∧ m.arity - 1 ∉ m.unused) ∧ m.unused = [0, 2, 3] ∧
      ¬∃ other segments, Template.read other = .ok segments ∧
        Message.ofSegments "m" segments = ⟨"m", 0, [.literal "a", .literal "b"]⟩ := by
  intro source segments m
  have hread : Template.read source = .ok segments := by decide +kernel
  obtain ⟨htemplates, hmessages⟩ := messages_have_normal_form
  obtain ⟨hnormal, hlast, -⟩ := htemplates source "m" segments hread
  refine ⟨hread, hnormal, by decide +kernel, ⟨by decide, hlast (by decide)⟩, by decide +kernel, ?_⟩
  intro hexists
  have happart := ((hmessages ⟨"m", 0, [.literal "a", .literal "b"]⟩).mpr hexists).apart
  exact (List.isChain_cons_cons.mp happart).1 ⟨rfl, rfl⟩

end Phrasebook
