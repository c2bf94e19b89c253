import Phrasebook.Message
import Phrasebook.Proofs.Template.Grammar

/-!
# What a message says

A message that is given arguments puts together its parts: the literal texts, and the arguments
that it refers to. A template can be read without any of this. From left to right, each of its
elements gives some text: a glyph the text that it stands for, and a placeholder the argument of
its index. It is shown here that both ways give the same text, or both ask for an argument that is
missing. A message takes as many arguments as it has to: with as many there is always a text, and
with fewer there is none.

The two ways meet at the stretches of the template. The part of a stretch that is empty is left
out of the message, and adds nothing to the direct reading.

## Main results

* `Template.gatherText_segmentsOf`: the parts of a message give what the elements give.
* `isSome_evaluate?_iff`: a message has a text exactly if there are as many arguments as it takes.
* `evaluate?_eq_direct_reading`: a message says what its template says.
-/

namespace Phrasebook

/-! ### Putting texts together -/

/-- The texts of a row of things, put together, if each of them has one. -/
def gatherText {α : Type} (value? : α → Option String) (row : List α) : Option String :=
  (row.mapM value?).map String.join

section

variable {α β : Type} {value? : α → Option String} {value?' : β → Option String}

/-- An empty row has the empty text. -/
theorem gatherText_nil : gatherText value? [] = some "" :=
  rfl

/-- The text of a row is that of its first thing and then that of the others, if both have one. -/
theorem gatherText_cons (a : α) (row : List α) :
    gatherText value? (a :: row) =
      (value? a).bind fun text => (gatherText value? row).map (text ++ ·) := by
  simp only [gatherText, List.mapM_cons]
  cases value? a with
  | none => rfl
  | some text => cases row.mapM value? <;> simp [String.join_cons]

/-- What stands in two rows is put together row by row. -/
theorem gatherText_append (row others : List α) :
    gatherText value? (row ++ others) =
      (gatherText value? row).bind fun text => (gatherText value? others).map (text ++ ·) := by
  simp only [gatherText, List.mapM_append]
  cases row.mapM value? with
  | none => rfl
  | some texts => cases others.mapM value? <;> simp [String.join_append]

/-- Rows that are made up of stretches with equal texts have equal texts. -/
theorem gatherText_flatMap_congr {γ : Type} {row : List γ} {f : γ → List α} {g : γ → List β}
    (h : ∀ c ∈ row, gatherText value? (f c) = gatherText value?' (g c)) :
    gatherText value? (row.flatMap f) = gatherText value?' (row.flatMap g) := by
  induction row with
  | nil => rfl
  | cons c row ih =>
      rw [List.flatMap_cons, List.flatMap_cons, gatherText_append, gatherText_append,
        h c List.mem_cons_self, ih fun d hd => h d (List.mem_cons_of_mem c hd)]

/-- There is a text if each thing in the row has one, and only then. -/
theorem isSome_gatherText_iff {row : List α} :
    (gatherText value? row).isSome = true ↔ ∀ a ∈ row, (value? a).isSome = true := by
  induction row with
  | nil => simp [gatherText_nil]
  | cons a row ih =>
      rw [List.forall_mem_cons, ← ih, gatherText_cons]
      cases value? a <;> simp

end

/-! ### Evaluating messages -/

/-- The text of a part, if the argument that it refers to is there. -/
def Part.value? (args : List String) : Part → Option String
  | .literal text => some text
  | .argument index => args[index]?

/-- The text that a message puts together from arguments, if none that it refers to is missing. -/
def Message.evaluate? (m : Message) (args : List String) : Option String :=
  gatherText (Part.value? args) m.body

namespace Template

/-- The text that an element gives, if the argument of its index is there. -/
def Element.value? (args : List String) : Element → Option String
  | .glyph g => some (String.ofList g.text)
  | .placeholder p => args[p.index]?

/-- The direct reading of a template: what its elements give from left to right. -/
def ReadsAs (args : List String) (source text : String) : Prop :=
  ∃ elements, spell elements = source ∧ gatherText (Element.value? args) elements = some text

section

variable (args : List String)

/-- Glyphs give the text that they stand for. -/
theorem gatherText_glyphs (glyphs : List Glyph) :
    gatherText (Element.value? args) (glyphs.map .glyph) = some (textOf glyphs) := by
  induction glyphs with
  | nil => rfl
  | cons g glyphs ih =>
      rw [List.map_cons, gatherText_cons, ih]
      simp [Element.value?, textOf]

/-- The parts of a segment give its text, whether it is empty or not, and then its argument. -/
theorem gatherText_parts (s : Segment) :
    gatherText (Part.value? args) s.parts =
      match s.index with
      | none => some s.literal
      | some index => (args[index]?).map (s.literal ++ ·) := by
  obtain ⟨literal, index⟩ := s
  cases index with
  | none =>
      by_cases hempty : literal = "" <;>
        simp [Segment.parts, hempty, gatherText_cons, gatherText_nil, Part.value?]
  | some index =>
      by_cases hempty : literal = "" <;>
        cases hvalue : args[index]? <;>
          simp [Segment.parts, hempty, gatherText_cons, gatherText_nil, Part.value?, hvalue]

/-- The parts of a stretch give what its elements give. -/
theorem gatherText_stretch (s : Stretch) :
    gatherText (Part.value? args) s.segment.parts =
      gatherText (Element.value? args) s.elements := by
  rw [gatherText_parts, Stretch.elements, gatherText_append, gatherText_glyphs, gatherText_cons]
  cases hvalue : args[s.placeholder.index]? <;>
    simp [Stretch.segment, Element.value?, gatherText_nil, hvalue]

/-- The parts of the last segment give what the last glyphs give, also if there is no segment. -/
theorem gatherText_lastSegment (glyphs : List Glyph) :
    gatherText (Part.value? args) ((lastSegment glyphs).flatMap Segment.parts) =
      gatherText (Element.value? args) (glyphs.map .glyph) := by
  rw [gatherText_glyphs, lastSegment]
  split
  next hempty => rw [hempty, List.flatMap_nil, gatherText_nil]
  next => rw [List.flatMap_singleton, gatherText_parts]

/-- **The parts of a message give what the elements of its template give.** -/
theorem gatherText_segmentsOf (elements : List Element) :
    gatherText (Part.value? args) ((segmentsOf elements).flatMap Segment.parts) =
      gatherText (Element.value? args) elements := by
  have hstretches : gatherText (Part.value? args)
      (((stretches elements).1.map Stretch.segment).flatMap Segment.parts) =
        gatherText (Element.value? args) ((stretches elements).1.flatMap Stretch.elements) := by
    rw [List.flatMap_map]
    exact gatherText_flatMap_congr fun s _ => gatherText_stretch args s
  calc gatherText (Part.value? args) ((segmentsOf elements).flatMap Segment.parts)
      = gatherText (Element.value? args)
          (assemble (stretches elements).1 (stretches elements).2) := by
        rw [segmentsOf, List.flatMap_append, assemble, gatherText_append, gatherText_append,
          hstretches, gatherText_lastSegment]
    _ = gatherText (Element.value? args) elements := by rw [assemble_stretches]

end

/-! ### How many arguments are needed -/

/-- Segments take no more than so many arguments if every index is below that. -/
theorem arity_le_iff {segments : List Segment} {n : Nat} :
    arity segments ≤ n ↔ ∀ i ∈ segments.filterMap Segment.index, i < n := by
  rw [arity]
  induction segments.filterMap Segment.index with
  | nil => simp
  | cons i indices ih =>
      rw [List.foldr_cons, Nat.max_le, ih, List.forall_mem_cons, Nat.succ_le_iff]

/-- The arguments of the parts are the indices of the segments, in the same order. -/
theorem filterMap_argument?_parts (segments : List Segment) :
    (segments.flatMap Segment.parts).filterMap Part.argument? =
      segments.filterMap Segment.index := by
  induction segments with
  | nil => rfl
  | cons s segments ih =>
      obtain ⟨literal, index⟩ := s
      rw [List.flatMap_cons, List.filterMap_append, ih]
      cases index <;> by_cases hempty : literal = "" <;>
        simp [Segment.parts, hempty, Part.argument?, List.filterMap_cons]

end Template

/-- The text of a part is there if the argument is that it refers to. -/
theorem Part.isSome_value?_iff {args : List String} {part : Part} :
    (part.value? args).isSome = true ↔ ∀ i ∈ part.argument?, i < args.length := by
  cases part <;> simp [Part.value?, Part.argument?]

/-- **A message has a text exactly if there are as many arguments as it takes.** -/
theorem isSome_evaluate?_iff {name : String} {segments : List Segment} {args : List String} :
    ((Message.ofSegments name segments).evaluate? args).isSome = true ↔
      (Message.ofSegments name segments).arity ≤ args.length := by
  rw [Message.evaluate?, isSome_gatherText_iff, Message.ofSegments, Template.arity_le_iff,
    ← Template.filterMap_argument?_parts]
  simp only [Part.isSome_value?_iff, List.mem_filterMap]
  constructor
  · rintro h i ⟨part, hpart, hi⟩
    exact h part hpart i hi
  · intro h part hpart i hi
    exact h i ⟨part, hpart, hi⟩

/-! ### The main result -/

/-- **A message says what its template says.** Take any template that is accepted, and the message
that it makes under any name.

* For all arguments, the message has the text that the direct reading of the template gives, and no
  other.
* There is such a text exactly if there are at least as many arguments as the message takes. So no
  argument is ever missing where there are as many, and one is where there are fewer. -/
theorem evaluate?_eq_direct_reading {source : String} {segments : List Segment}
    (h : Template.read source = .ok segments) (name : String) :
    let message := Message.ofSegments name segments
    (∀ args text, message.evaluate? args = some text ↔ Template.ReadsAs args source text) ∧
      ∀ args : List String,
        (∃ text, message.evaluate? args = some text) ↔ message.arity ≤ args.length := by
  intro message
  obtain ⟨elements, rfl⟩ := Template.exists_spell_of_read h
  obtain rfl := Except.ok.inj ((Template.read_spell elements).symm.trans h)
  refine ⟨fun args text => ?_, fun args => ?_⟩
  · have hbody : message.evaluate? args = gatherText (Template.Element.value? args) elements :=
      Template.gatherText_segmentsOf args elements
    rw [hbody]
    constructor
    · intro htext
      exact ⟨elements, rfl, htext⟩
    · rintro ⟨others, hspell, htext⟩
      obtain rfl := Template.flatMap_spelling_cancel (String.ofList_injective hspell)
      exact htext
  · rw [← Option.isSome_iff_exists]
    exact isSome_evaluate?_iff

/-- A template that refers to the last argument first, skips one, and has braces and a quote next to
its placeholders: it is read with three arguments, and with two there is nothing to be read. -/
theorem evaluate?_eq_direct_reading_gap :
    let source := "\x7b2\x7d-\"\x7b\x7b\x7b00!r\x7d\x7d\x7d"
    let segments : List Segment := [⟨"", some 2⟩, ⟨"-\x7b", some 0⟩, ⟨"\x7d", none⟩]
    Template.read source = .ok segments ∧
      Template.ReadsAs ["a", "b", "c"] source "c-\x7ba\x7d" ∧
      ¬∃ text, (Message.ofSegments "m" segments).evaluate? ["a", "b"] = some text := by
  intro source segments
  have hread : Template.read source = .ok segments := by decide +kernel
  have hevaluate : (Message.ofSegments "m" segments).evaluate? ["a", "b", "c"] =
      some "c-\x7ba\x7d" := by decide +kernel
  obtain ⟨hreading, hdefined⟩ := evaluate?_eq_direct_reading hread "m"
  refine ⟨hread, (hreading _ _).mp hevaluate, fun htext => ?_⟩
  have harity := (hdefined ["a", "b"]).mp htext
  exact absurd harity (by decide)

end Phrasebook
