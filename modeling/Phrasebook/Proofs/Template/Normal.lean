import Phrasebook.Message
import Phrasebook.Proofs.Template.Grammar

/-!
# What reading a template gives

The reader never gives any other segments than those in normal form, so normal forms are exactly
what templates stand for. The printer chooses one template for each of them, the *canonical* one.
Printing what has been read replaces a template by its canonical one, element by element: a double
quote is left out, and of a placeholder only the digits of its index remain, without blanks and
zeros in front, formats and conversions.

A message keeps the parts of its segments in one row and drops empty literals, but it loses nothing
by that: a literal is followed by the argument of its own segment, or it is the last part, so the
parts can be gathered back into segments.

## Main results

* `normal_of_read`: the segments of a template are in normal form.
* `print_segmentsOf`: printing the segments of elements spells each element canonically.
* `templates_have_canonical_form`: normal forms are what templates stand for, and each has a
  canonical template.
* `gather_parts`: segments in normal form are gathered back from their parts.
-/

namespace Phrasebook.Template

/-! ### Reading gives normal forms -/

/-- A literal text and an index may stand before any normal form. -/
theorem Normal.cons {literal : String} {index : Nat} {rest : List Segment} (h : Normal rest)
    (hliteral : '"' ∉ literal.toList) (hindex : index < indexBound) :
    Normal (⟨literal, some index⟩ :: rest) where
  unquoted s hs := by
    rcases List.mem_cons.mp hs with rfl | hs
    · exact hliteral
    · exact h.unquoted s hs
  indexed s hs := by
    rcases rest with - | ⟨next, rest⟩
    · exact absurd hs List.not_mem_nil
    · rw [List.dropLast_cons_cons] at hs
      rcases List.mem_cons.mp hs with rfl | hs
      · exact Option.some_ne_none index
      · exact h.indexed s hs
  bounded s hs := by
    rcases List.mem_cons.mp hs with rfl | hs
    · intro i hi
      exact Option.some.inj hi ▸ hindex
    · exact h.bounded s hs
  nonempty s hs := by
    rcases List.mem_cons.mp hs with rfl | hs
    · exact fun hnone => absurd hnone (Option.some_ne_none index)
    · exact h.nonempty s hs

/-- Some literal text makes up a normal form. -/
theorem normal_singleton {literal : String} (hliteral : '"' ∉ literal.toList)
    (hne : literal ≠ "") : Normal [⟨literal, none⟩] := by
  refine ⟨?_, ?_, ?_, ?_⟩ <;> simp [hliteral, hne]

/-- No glyph stands for a double quote. -/
theorem Glyph.quote_notMem_text (g : Glyph) : '"' ∉ g.text := by
  cases g with
  | openingBrace | closingBrace => decide
  | plain c hopening hclosing =>
      rw [Glyph.text]
      split
      next => exact List.not_mem_nil
      next hc => exact fun hmem => hc (List.mem_singleton.mp hmem).symm

/-- The text of glyphs has no double quote. -/
theorem quote_notMem_textOf (glyphs : List Glyph) : '"' ∉ (textOf glyphs).toList := by
  rw [textOf, String.toList_ofList, List.mem_flatMap]
  rintro ⟨g, -, hg⟩
  exact g.quote_notMem_text hg

/-- The segments of elements are in normal form. -/
theorem normal_segmentsOf (elements : List Element) : Normal (segmentsOf elements) := by
  rw [segmentsOf]
  induction (stretches elements).1 with
  | nil =>
      rw [List.map_nil, List.nil_append, lastSegment]
      split
      next => exact ⟨by simp, by simp, by simp, by simp⟩
      next hne => exact normal_singleton (quote_notMem_textOf _) hne
  | cons s row ih => exact ih.cons (quote_notMem_textOf _) s.placeholder.spells.lt_indexBound

/-- **The segments of a template are in normal form.** -/
theorem normal_of_read {source : String} {segments : List Segment}
    (h : read source = .ok segments) : Normal segments := by
  obtain ⟨elements, rfl⟩ := exists_spell_of_read h
  obtain rfl := Except.ok.inj ((read_spell elements).symm.trans h)
  exact normal_segmentsOf elements

/-! ### The canonical template -/

/-- The canonical spelling of an element: a double quote is left out, and a placeholder has nothing
but the digits of its index. -/
def Element.canonical : Element → List Char
  | .glyph g => escape g.text
  | .placeholder p => Template.placeholder p.index

/-- The text of glyphs, escaped, spells each glyph canonically. -/
theorem escape_textOf (glyphs : List Glyph) :
    escape (textOf glyphs).toList = (glyphs.map Element.glyph).flatMap Element.canonical := by
  rw [textOf, String.toList_ofList, escape, List.flatMap_assoc, List.flatMap_map]
  rfl

/-- Printing the segment of a stretch spells its elements canonically. -/
theorem printSegment_stretch (s : Stretch) :
    printSegment s.segment = s.elements.flatMap Element.canonical := by
  rw [printSegment, Stretch.segment, escape_textOf, Stretch.elements, List.flatMap_append]
  rfl

/-- Printing the last segment spells its glyphs canonically, also if there are none. -/
theorem flatMap_printSegment_lastSegment (glyphs : List Glyph) :
    (lastSegment glyphs).flatMap printSegment =
      (glyphs.map Element.glyph).flatMap Element.canonical := by
  rw [← escape_textOf, lastSegment]
  split
  next hempty =>
    rw [hempty]
    rfl
  next =>
    rw [List.flatMap_singleton, printSegment]
    exact List.append_nil _

/-- **Printing the segments of elements spells each element canonically.** -/
theorem print_segmentsOf (elements : List Element) :
    print (segmentsOf elements) = String.ofList (elements.flatMap Element.canonical) := by
  have hstretches (row : List Stretch) :
      (row.map Stretch.segment).flatMap printSegment =
        (row.flatMap Stretch.elements).flatMap Element.canonical := by
    rw [List.flatMap_map, List.flatMap_assoc]
    exact congrArg (row.flatMap ·) (funext printSegment_stretch)
  have hassembled := assemble_stretches elements
  rw [print, segmentsOf, List.flatMap_append, hstretches, flatMap_printSegment_lastSegment,
    ← List.flatMap_append]
  exact congrArg (fun row => String.ofList (row.flatMap Element.canonical)) hassembled

/-- **Normal forms are what templates stand for, and each has a canonical template.**

* Whatever template is read, its segments are in normal form, and segments in normal form are read
  back from what the printer makes of them. So segments are those of some template exactly if they
  are in normal form.
* A template and the canonical template of its segments are read alike. The canonical one has the
  same elements, each in its canonical spelling. -/
theorem templates_have_canonical_form :
    (∀ source segments, read source = .ok segments → Normal segments) ∧
    (∀ segments, Normal segments → read (print segments) = .ok segments) ∧
    (∀ segments, (∃ source, read source = .ok segments) ↔ Normal segments) ∧
    (∀ source segments, read source = .ok segments → read (print segments) = read source) ∧
    ∀ elements segments, read (spell elements) = .ok segments →
      print segments = String.ofList (elements.flatMap Element.canonical) := by
  refine ⟨fun _ _ => normal_of_read, fun _ => read_print, fun segments => ⟨?_, ?_⟩, ?_, ?_⟩
  · rintro ⟨source, h⟩
    exact normal_of_read h
  · intro h
    exact ⟨print segments, read_print h⟩
  · intro source segments h
    rw [h, read_print (normal_of_read h)]
  · intro elements segments h
    obtain rfl := Except.ok.inj ((read_spell elements).symm.trans h)
    exact print_segmentsOf elements

/-- A template with quotes, a padded index with zeros in front and a conversion, and doubled braces
on both sides of it; and a segment that no template has. -/
theorem templates_have_canonical_form_padded :
    let source := "\"\x7b\x7b\x7b 007!r \x7d\x7d\x7d\""
    let segments : List Segment := [⟨"\x7b", some 7⟩, ⟨"\x7d", none⟩]
    read source = .ok segments ∧ Normal segments ∧
      print segments = "\x7b\x7b\x7b7\x7d\x7d\x7d" ∧
      read "\x7b\x7b\x7b7\x7d\x7d\x7d" = read source ∧
      ¬ Normal [⟨"", none⟩] ∧ ∀ other, read other ≠ .ok [⟨"", none⟩] := by
  intro source segments
  have hread : read source = .ok segments := by decide +kernel
  have hprint : print segments = "\x7b\x7b\x7b7\x7d\x7d\x7d" := by decide +kernel
  have hempty : ¬ Normal [⟨"", none⟩] := by decide
  obtain ⟨hnormal, -, himage, halike, -⟩ := templates_have_canonical_form
  refine ⟨hread, hnormal source segments hread, hprint, ?_, hempty, ?_⟩
  · rw [← hprint]
    exact halike source segments hread
  · intro other hother
    exact hempty ((himage _).mp ⟨other, hother⟩)

/-! ### Gathering parts -/

/-- The segments that parts make up: a literal goes with the argument that follows it. -/
def gather : List Part → List Segment
  | [] => []
  | .argument index :: rest => ⟨"", some index⟩ :: gather rest
  | .literal text :: .argument index :: rest => ⟨text, some index⟩ :: gather rest
  | .literal text :: rest => ⟨text, none⟩ :: gather rest

/-- **Segments in normal form are gathered back from their parts.** -/
theorem gather_parts {segments : List Segment} (h : Normal segments) :
    gather (segments.flatMap Segment.parts) = segments := by
  induction segments with
  | nil => rfl
  | cons s rest ih =>
      obtain ⟨literal, index⟩ := s
      have hrest := ih h.tail
      cases index with
      | none =>
          have hne : literal ≠ "" := h.nonempty _ List.mem_cons_self rfl
          obtain rfl : rest = [] := h.eq_nil_of_index rfl
          simp [Segment.parts, hne, gather]
      | some i => by_cases hempty : literal = "" <;> simp [Segment.parts, hempty, gather, hrest]

end Phrasebook.Template
