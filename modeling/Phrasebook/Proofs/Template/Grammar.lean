import Phrasebook.Proofs.Template.Print

/-!
# The grammar of templates

A template is a row of *elements*, which stand next to each other. A *glyph* stands for literal
text: any character but a brace stands for itself, except for the double quote, which stands for
nothing, and a doubled brace stands for one brace. A *placeholder* is set in single braces.
Elements hold the proofs that they may be written as they are, so that every row of elements is a
template.

The reader knows nothing of elements. It goes from character to character and decides at each
brace what it belongs to. It is shown here that it accepts exactly the templates that elements
spell, and that it gives their segments. No template is spelled by two rows of elements: every
element can be told from the first characters, whatever follows it.

## Main results

* `read_spell`: reading what elements spell gives their segments.
* `exists_spell_of_read`: what the reader accepts is spelled by elements.
* `flatMap_spelling_cancel`: no two rows of elements spell the same.
* `read_follows_grammar`: the reader follows the grammar.
-/

namespace Phrasebook.Template

/-! ### Elements -/

/-- An element that stands for literal text: a character other than a brace, or a doubled brace. -/
inductive Glyph where
  | plain (c : Char) (hopening : c ≠ '{') (hclosing : c ≠ '}')
  | openingBrace
  | closingBrace

/-- A placeholder: what stands between its braces, and the index that this spells. -/
structure Placeholder where
  inside : List Char
  index : Nat
  closed : '}' ∉ inside
  spells : SpellsIndex inside index

/-- An element of a template. -/
inductive Element where
  | glyph (g : Glyph)
  | placeholder (p : Placeholder)

/-- The characters of a glyph. -/
def Glyph.spelling : Glyph → List Char
  | .plain c _ _ => [c]
  | .openingBrace => ['{', '{']
  | .closingBrace => ['}', '}']

/-- The text that a glyph stands for. -/
def Glyph.text : Glyph → List Char
  | .plain c _ _ => if c = '"' then [] else [c]
  | .openingBrace => ['{']
  | .closingBrace => ['}']

/-- The characters of a placeholder. -/
def Placeholder.spelling (p : Placeholder) : List Char :=
  '{' :: (p.inside ++ ['}'])

/-- The characters of an element. -/
def Element.spelling : Element → List Char
  | .glyph g => g.spelling
  | .placeholder p => p.spelling

/-- The template that elements spell. -/
def spell (elements : List Element) : String :=
  String.ofList (elements.flatMap Element.spelling)

/-! ### The segments of elements -/

/-- A placeholder, and the glyphs between the placeholder before it and this one. -/
structure Stretch where
  glyphs : List Glyph
  placeholder : Placeholder

/-- The elements of a stretch. -/
def Stretch.elements (s : Stretch) : List Element :=
  s.glyphs.map .glyph ++ [.placeholder s.placeholder]

/-- The elements of stretches, and of the glyphs after the last placeholder. -/
def assemble (row : List Stretch) (last : List Glyph) : List Element :=
  row.flatMap Stretch.elements ++ last.map .glyph

/-- The stretches of a row of elements, and the glyphs after the last placeholder. -/
def stretches : List Element → List Stretch × List Glyph
  | [] => ([], [])
  | .placeholder p :: rest => (⟨[], p⟩ :: (stretches rest).1, (stretches rest).2)
  | .glyph g :: rest =>
    match stretches rest with
    | ([], last) => ([], g :: last)
    | (s :: others, last) => (⟨g :: s.glyphs, s.placeholder⟩ :: others, last)

/-- The text that glyphs stand for. -/
def textOf (glyphs : List Glyph) : String :=
  String.ofList (glyphs.flatMap Glyph.text)

/-- The segment of a stretch: the text before the placeholder, and its index. -/
def Stretch.segment (s : Stretch) : Segment :=
  ⟨textOf s.glyphs, some s.placeholder.index⟩

/-- The segment of the glyphs after the last placeholder, if these stand for any text. -/
def lastSegment (glyphs : List Glyph) : List Segment :=
  if textOf glyphs = "" then [] else [⟨textOf glyphs, none⟩]

/-- The segments of a row of elements: one for each placeholder, and one for the text after the
last of them. -/
def segmentsOf (elements : List Element) : List Segment :=
  (stretches elements).1.map Stretch.segment ++ lastSegment (stretches elements).2

/-- Elements are assembled from their stretches. -/
theorem assemble_stretches (elements : List Element) :
    assemble (stretches elements).1 (stretches elements).2 = elements := by
  induction elements with
  | nil => rfl
  | cons element rest ih =>
      cases element with
      | placeholder p => exact congrArg (Element.placeholder p :: ·) ih
      | glyph g =>
          rw [stretches]
          split
          next last hrest =>
            rw [hrest] at ih
            exact congrArg (Element.glyph g :: ·) ih
          next s others last hrest =>
            rw [hrest] at ih
            exact congrArg (Element.glyph g :: ·) ih

/-! ### Reading what elements spell -/

/-- A glyph is read as the text that it stands for. -/
theorem readFrom_glyph (g : Glyph) (column : Nat) (literal rest : List Char) :
    readFrom column literal none (g.spelling ++ rest) =
      readFrom (column + g.spelling.length) (g.text.reverse ++ literal) none rest := by
  cases g with
  | openingBrace => rfl
  | closingBrace => rfl
  | plain c hopening hclosing =>
      by_cases hquote : c = '"' <;>
        simp [Glyph.spelling, Glyph.text, readFrom, hopening, hclosing, hquote]

/-- Glyphs are read as the text that they stand for. -/
theorem readFrom_glyphs (glyphs : List Glyph) (column : Nat) (literal rest : List Char) :
    readFrom column literal none (glyphs.flatMap Glyph.spelling ++ rest) =
      readFrom (column + (glyphs.flatMap Glyph.spelling).length)
        ((glyphs.flatMap Glyph.text).reverse ++ literal) none rest := by
  induction glyphs generalizing column literal with
  | nil => rfl
  | cons g glyphs ih =>
      rw [List.flatMap_cons, List.append_assoc, readFrom_glyph, ih, List.length_append,
        Nat.add_assoc, List.flatMap_cons, List.reverse_append, List.append_assoc]

/-- What stretches and glyphs spell is read as their segments, at any column. -/
theorem readFrom_assemble (row : List Stretch) (last : List Glyph) (column : Nat) :
    readFrom column [] none ((assemble row last).flatMap Element.spelling) =
      .ok (row.map Stretch.segment ++ lastSegment last) := by
  induction row generalizing column with
  | nil =>
      have hspelling : (assemble [] last).flatMap Element.spelling =
          last.flatMap Glyph.spelling ++ [] := by
        rw [assemble, List.flatMap_nil, List.nil_append, List.flatMap_map, List.append_nil]
        rfl
      rw [hspelling, readFrom_glyphs, readFrom, List.append_nil]
      by_cases hempty : last.flatMap Glyph.text = [] <;> simp [lastSegment, textOf, hempty]
  | cons s row ih =>
      let rest := (assemble row last).flatMap Element.spelling
      have hspelling : (assemble (s :: row) last).flatMap Element.spelling =
          s.glyphs.flatMap Glyph.spelling ++ '{' :: (s.placeholder.inside ++ '}' :: rest) := by
        simp only [rest, assemble, Stretch.elements, List.flatMap_cons, List.append_assoc,
          List.flatMap_append, List.flatMap_map, List.cons_append, List.nil_append,
          Element.spelling, Placeholder.spelling]
      have hindex := fieldIndex_eq_ok_iff.mpr s.placeholder.spells
      rw [hspelling, readFrom_glyphs,
        readFrom_placeholder s.placeholder.closed s.placeholder.spells.head?_ne_brace, hindex]
      dsimp only [rest]
      rw [ih, List.append_nil, List.reverse_reverse]
      rfl

/-- **Reading what elements spell gives their segments.** -/
theorem read_spell (elements : List Element) : read (spell elements) = .ok (segmentsOf elements) := by
  have hread := readFrom_assemble (stretches elements).1 (stretches elements).2 1
  rw [assemble_stretches] at hread
  rw [read, spell, String.toList_ofList, hread, segmentsOf]

/-! ### What the reader accepts -/

/-- What has been read of an open placeholder, with its brace. -/
def begun : Option OpenField → List Char
  | none => []
  | some field => '{' :: field.text.reverse

/-- Whatever has been read, the rest of an accepted template is spelled by elements, together with
what has been read of a placeholder that is open. That one becomes an element when it is closed, and
only grows until then. -/
theorem exists_spelling_of_readFrom {column : Nat} {literal : List Char} {field : Option OpenField}
    {cs : List Char} {segments : List Segment} (hfield : ∀ f ∈ field, '}' ∉ f.text)
    (h : readFrom column literal field cs = .ok segments) :
    ∃ elements : List Element, elements.flatMap Element.spelling = begun field ++ cs := by
  fun_induction readFrom column literal field cs generalizing segments with
  | case1 | case2 | case3 | case11 => cases h
  | case4 column literal field cs index hindex rest hrest ih =>
      obtain ⟨elements, helements⟩ := ih nofun hrest
      have hclosed : '}' ∉ field.text.reverse := by
        rw [List.mem_reverse]
        exact hfield field rfl
      refine ⟨.placeholder ⟨_, index, hclosed, fieldIndex_eq_ok_iff.mp hindex⟩ :: elements, ?_⟩
      rw [List.flatMap_cons, helements]
      simp [Element.spelling, Placeholder.spelling, begun]
  | case5 column literal field c cs hc ih =>
      have hgrown : ∀ f ∈ some (OpenField.mk field.column (c :: field.text)), '}' ∉ f.text := by
        rintro f ⟨⟩
        exact List.not_mem_cons_of_ne_of_not_mem (Ne.symm hc) (hfield field rfl)
      obtain ⟨elements, helements⟩ := ih hgrown h
      refine ⟨elements, helements.trans ?_⟩
      simp [begun]
  | case6 | case7 => exact ⟨[], rfl⟩
  | case8 column literal cs ih =>
      obtain ⟨elements, helements⟩ := ih nofun h
      exact ⟨.glyph .openingBrace :: elements, congrArg ('{' :: '{' :: ·) helements⟩
  | case9 column literal cs ih =>
      obtain ⟨elements, helements⟩ := ih nofun h
      exact ⟨.glyph .closingBrace :: elements, congrArg ('}' :: '}' :: ·) helements⟩
  | case10 column literal cs _ _ ih =>
      obtain ⟨elements, helements⟩ := ih (by rintro f ⟨⟩; exact List.not_mem_nil) h
      exact ⟨elements, helements⟩
  | case12 column literal cs _ _ hopening hclosing ih =>
      obtain ⟨elements, helements⟩ := ih nofun h
      exact ⟨.glyph (.plain '"' hopening hclosing) :: elements, congrArg ('"' :: ·) helements⟩
  | case13 column literal c cs _ _ hopening hclosing _ ih =>
      obtain ⟨elements, helements⟩ := ih nofun h
      exact ⟨.glyph (.plain c hopening hclosing) :: elements, congrArg (c :: ·) helements⟩

/-- **What the reader accepts is spelled by elements.** -/
theorem exists_spell_of_read {source : String} {segments : List Segment}
    (h : read source = .ok segments) : ∃ elements, spell elements = source := by
  have hnone : ∀ f ∈ (none : Option OpenField), '}' ∉ f.text := nofun
  obtain ⟨elements, helements⟩ := exists_spelling_of_readFrom hnone h
  refine ⟨elements, ?_⟩
  rw [spell, helements]
  exact String.ofList_toList

/-! ### Spellings are unique -/

/-- A glyph is never mistaken for a placeholder. -/
theorem Glyph.spelling_append_ne (g : Glyph) (p : Placeholder) (rest rest' : List Char) :
    g.spelling ++ rest ≠ p.spelling ++ rest' := by
  obtain ⟨c, others, hinside, hc⟩ := p.spells.head
  intro h
  rw [Placeholder.spelling, hinside] at h
  cases g with
  | plain d hopening hclosing => exact hopening (List.cons.inj h).1
  | closingBrace => exact absurd (List.cons.inj h).1 (by decide)
  | openingBrace =>
      obtain rfl : '{' = c := (List.cons.inj (List.cons.inj h).2).1
      rcases hc with hc | hc <;> exact absurd hc (by decide)

/-- A glyph is recovered from its spelling, whatever follows. -/
theorem Glyph.spelling_append_cancel {g g' : Glyph} {rest rest' : List Char}
    (h : g.spelling ++ rest = g'.spelling ++ rest') : g = g' ∧ rest = rest' := by
  cases g <;> cases g' <;> grind [Glyph.spelling]

/-- A placeholder is recovered from its spelling, whatever follows. -/
theorem Placeholder.spelling_append_cancel {p p' : Placeholder} {rest rest' : List Char}
    (h : p.spelling ++ rest = p'.spelling ++ rest') : p = p' ∧ rest = rest' := by
  obtain ⟨inside, index, hclosed, hspells⟩ := p
  obtain ⟨inside', index', hclosed', hspells'⟩ := p'
  simp only [spelling, List.cons_append, List.append_assoc, List.nil_append, List.cons.injEq,
    true_and] at h
  obtain ⟨rfl, hrest⟩ := append_cancel_of_not_mem hclosed hclosed' h
  have hindices := (fieldIndex_eq_ok_iff.mpr hspells).symm.trans (fieldIndex_eq_ok_iff.mpr hspells')
  obtain rfl := Except.ok.inj hindices
  exact ⟨rfl, hrest⟩

/-- An element is recovered from its spelling, whatever follows. -/
theorem Element.spelling_append_cancel {e e' : Element} {rest rest' : List Char}
    (h : e.spelling ++ rest = e'.spelling ++ rest') : e = e' ∧ rest = rest' := by
  cases e with
  | glyph g =>
      cases e' with
      | glyph g' =>
          obtain ⟨rfl, hrest⟩ := Glyph.spelling_append_cancel h
          exact ⟨rfl, hrest⟩
      | placeholder p' => exact absurd h (g.spelling_append_ne p' rest rest')
  | placeholder p =>
      cases e' with
      | glyph g' => exact absurd h.symm (g'.spelling_append_ne p rest' rest)
      | placeholder p' =>
          obtain ⟨rfl, hrest⟩ := Placeholder.spelling_append_cancel h
          exact ⟨rfl, hrest⟩

/-- No element is spelled by nothing. -/
theorem Element.spelling_ne_nil (e : Element) : e.spelling ≠ [] := by
  rcases e with (- | - | -) | - <;> exact List.cons_ne_nil _ _

/-- **No two rows of elements spell the same.** -/
theorem flatMap_spelling_cancel {elements others : List Element}
    (h : elements.flatMap Element.spelling = others.flatMap Element.spelling) :
    elements = others := by
  induction elements generalizing others with
  | nil =>
      cases others with
      | nil => rfl
      | cons e' others =>
          have hempty := (List.append_eq_nil_iff.mp h.symm).1
          exact absurd hempty e'.spelling_ne_nil
  | cons e elements ih =>
      cases others with
      | nil =>
          have hempty := (List.append_eq_nil_iff.mp h).1
          exact absurd hempty e.spelling_ne_nil
      | cons e' others =>
          obtain ⟨rfl, hrest⟩ := Element.spelling_append_cancel h
          rw [ih hrest]

/-! ### The main result -/

/-- **The reader follows the grammar.** For every text:

* It is accepted as a template exactly if it is spelled by a row of elements, and it then has the
  segments of these elements: one for each placeholder, in order, with the text since the
  placeholder before it, and one without an index if text is left after the last placeholder.
* There is at most one row of elements that spells it. -/
theorem read_follows_grammar (source : String) :
    (∀ segments, read source = .ok segments ↔
      ∃ elements, spell elements = source ∧ segmentsOf elements = segments) ∧
    ∀ elements others, spell elements = source → spell others = source → elements = others := by
  refine ⟨fun segments => ⟨?_, ?_⟩, ?_⟩
  · intro h
    obtain ⟨elements, rfl⟩ := exists_spell_of_read h
    exact ⟨elements, rfl, Except.ok.inj ((read_spell elements).symm.trans h)⟩
  · rintro ⟨elements, rfl, rfl⟩
    exact read_spell elements
  · rintro elements others rfl h
    exact flatMap_spelling_cancel (String.ofList_injective h).symm

/-- Doubled braces next to a placeholder, which has a padded index with zeros in front and a format
that holds a brace and a quote; and a quote at the end, which stands for nothing. -/
theorem read_follows_grammar_next_to_braces :
    let source := "\x7b\x7b\x7b 007 :\x7b\"\x7d\x7d\x7dé\""
    let index : Placeholder :=
      ⟨[' ', '0', '0', '7', ' ', ':', '{', '"'], 7, by decide, fieldIndex_eq_ok_iff.mp rfl⟩
    let elements : List Element :=
      [.glyph .openingBrace, .placeholder index, .glyph .closingBrace,
        .glyph (.plain 'é' (by decide) (by decide)), .glyph (.plain '"' (by decide) (by decide))]
    spell elements = source ∧
      read source = .ok [⟨"\x7b", some 7⟩, ⟨"\x7dé", none⟩] ∧
      ∀ others, spell others = source → others = elements := by
  intro source index elements
  have hspell : spell elements = source := by decide +kernel
  have hsegments : segmentsOf elements = [⟨"\x7b", some 7⟩, ⟨"\x7dé", none⟩] := by decide +kernel
  obtain ⟨hread, hunique⟩ := read_follows_grammar source
  refine ⟨hspell, (hread _).mpr ⟨elements, hspell, hsegments⟩, ?_⟩
  intro others hothers
  exact hunique others elements hothers hspell

end Phrasebook.Template
