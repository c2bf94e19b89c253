import Mathlib.Tactic.MkIffOfInductiveProp
import Phrasebook.Proofs.Template.Index

/-!
# Printing templates

Segments can be written back as a template: the braces of a literal are doubled, and an index
stands in decimal between braces. A template has many spellings and the printer chooses one;
but the segments that reading can give, those in *normal form*, are read back from it exactly.

## Main results

* `read_print`: reading undoes printing on segments in normal form.
-/

namespace Phrasebook.Template

/-! ### The printer -/

/-- A character of a literal: a brace is doubled. -/
def escapeChar (c : Char) : List Char :=
  if c = '{' ∨ c = '}' then [c, c] else [c]

/-- The spelling of literal text. -/
def escape (cs : List Char) : List Char :=
  cs.flatMap escapeChar

/-- The spelling of a placeholder. -/
def placeholder (index : Nat) : List Char :=
  '{' :: (toString index).toList ++ ['}']

/-- The spelling of a segment. -/
def printSegment (s : Segment) : List Char :=
  escape s.literal.toList ++ s.index.toList.flatMap placeholder

/-- The template of segments. -/
def print (segments : List Segment) : String :=
  String.ofList (segments.flatMap printSegment)

/-- The form of segments that come out of a template: no literal has a double quote, every
segment but the last has an index, every index is below the bound, and a segment without an
index has some text. -/
@[mk_iff]
structure Normal (segments : List Segment) : Prop where
  unquoted : ∀ s ∈ segments, '"' ∉ s.literal.toList
  indexed : ∀ s ∈ segments.dropLast, s.index ≠ none
  bounded : ∀ s ∈ segments, ∀ i ∈ s.index, i < indexBound
  nonempty : ∀ s ∈ segments, s.index = none → s.literal ≠ ""

instance (segments : List Segment) : Decidable (Normal segments) :=
  decidable_of_iff' _ (normal_iff segments)

/-- What follows the first segment of a normal form is a normal form. -/
theorem Normal.tail {s : Segment} {rest : List Segment} (h : Normal (s :: rest)) :
    Normal rest where
  unquoted t ht := h.unquoted t (List.mem_cons_of_mem s ht)
  indexed t ht := by
    cases rest with
    | nil => simp at ht
    | cons next rest => exact h.indexed t (List.mem_cons_of_mem s ht)
  bounded t ht := h.bounded t (List.mem_cons_of_mem s ht)
  nonempty t ht := h.nonempty t (List.mem_cons_of_mem s ht)

/-- Only the last segment of a normal form may lack an index. -/
theorem Normal.eq_nil_of_index {s : Segment} {rest : List Segment} (h : Normal (s :: rest))
    (hs : s.index = none) : rest = [] := by
  cases rest with
  | nil => rfl
  | cons next rest => exact absurd hs (h.indexed s List.mem_cons_self)

/-! ### Reading what was printed -/

/-- Inside a placeholder everything up to the closing brace is kept. -/
theorem readFrom_field {cs : List Char} (h : '}' ∉ cs) (column : Nat) (literal : List Char)
    (field : OpenField) (rest : List Char) :
    readFrom column literal (some field) (cs ++ rest) =
      readFrom (column + cs.length) literal (some ⟨field.column, cs.reverse ++ field.text⟩)
        rest := by
  induction cs generalizing column field with
  | nil => rfl
  | cons c cs ih =>
      rw [List.mem_cons, not_or] at h
      rw [List.cons_append, readFrom, if_neg (Ne.symm h.1), ih h.2, List.reverse_cons,
        List.append_assoc, List.singleton_append, List.length_cons, Nat.add_assoc, Nat.add_comm 1]

/-- A brace that is not doubled opens a placeholder. -/
theorem readFrom_open {cs : List Char} (h : cs.head? ≠ some '{') (column : Nat)
    (literal : List Char) :
    readFrom column literal none ('{' :: cs) =
      readFrom (column + 1) literal (some ⟨column, []⟩) cs := by
  rw [readFrom]
  · exact if_pos rfl
  · rintro ds - rfl
    exact h rfl
  · rintro ds hc
    exact absurd hc (by decide)

/-- A placeholder ends the literal text before it, unless its index is refused. -/
theorem readFrom_placeholder {field : List Char} (hclosed : '}' ∉ field)
    (hopen : field.head? ≠ some '{') (column : Nat) (literal rest : List Char) :
    readFrom column literal none ('{' :: (field ++ '}' :: rest)) =
      match fieldIndex field with
      | .error fault => .error ⟨column, fault⟩
      | .ok index =>
        match readFrom (column + 1 + field.length + 1) [] none rest with
        | .error refusal => .error refusal
        | .ok segments => .ok (⟨String.ofList literal.reverse, some index⟩ :: segments) := by
  have hhead : (field ++ '}' :: rest).head? ≠ some '{' := by
    cases field with
    | nil => simp
    | cons c cs => exact hopen
  rw [readFrom_open hhead, readFrom_field hclosed, readFrom]
  cases hindex : fieldIndex field with
  | error fault => simp [hindex]
  | ok index => cases readFrom (column + 1 + field.length + 1) [] none rest <;> simp [hindex]

/-- A character of a literal is read back from its spelling. -/
theorem readFrom_escapeChar {c : Char} (h : c ≠ '"') (column : Nat) (literal rest : List Char) :
    readFrom column literal none (escapeChar c ++ rest) =
      readFrom (column + (escapeChar c).length) (c :: literal) none rest := by
  by_cases hc : c = '{' ∨ c = '}'
  · rw [escapeChar, if_pos hc]
    rcases hc with rfl | rfl <;> rfl
  · rw [escapeChar, if_neg hc]
    rw [not_or] at hc
    simp [readFrom, hc, h]

/-- Literal text is read back from its spelling. -/
theorem readFrom_escape {cs : List Char} (h : '"' ∉ cs) (column : Nat)
    (literal rest : List Char) :
    readFrom column literal none (escape cs ++ rest) =
      readFrom (column + (escape cs).length) (cs.reverse ++ literal) none rest := by
  induction cs generalizing column literal with
  | nil => rfl
  | cons c cs ih =>
      rw [List.mem_cons, not_or] at h
      have hescape : escape (c :: cs) = escapeChar c ++ escape cs := rfl
      rw [hescape, List.append_assoc, readFrom_escapeChar (Ne.symm h.1), ih h.2,
        List.length_append, Nat.add_assoc, List.reverse_cons, List.append_assoc,
        List.singleton_append]

/-- Segments in normal form are read back from their spelling, at any column. -/
theorem readFrom_print {segments : List Segment} (h : Normal segments) (column : Nat) :
    readFrom column [] none (segments.flatMap printSegment) = .ok segments := by
  induction segments generalizing column with
  | nil => rfl
  | cons s rest ih =>
      obtain ⟨literal, index⟩ := s
      have hliteral := h.unquoted _ List.mem_cons_self
      rw [List.flatMap_cons, printSegment, List.append_assoc, readFrom_escape hliteral]
      cases index with
      | none =>
          have hne : literal ≠ "" := h.nonempty _ List.mem_cons_self rfl
          obtain rfl : rest = [] := h.eq_nil_of_index rfl
          simp [readFrom, hne]
      | some i =>
          have hbound : i < indexBound := h.bounded _ List.mem_cons_self i rfl
          have hclosed : '}' ∉ (toString i).toList :=
            fun hmem => ne_of_isDigit (isDigit_of_mem_toString hmem) (by decide) rfl
          have hspelling : (some i).toList.flatMap placeholder ++ rest.flatMap printSegment =
              '{' :: ((toString i).toList ++ '}' :: rest.flatMap printSegment) := by
            simp [placeholder]
          rw [hspelling, readFrom_placeholder hclosed (spellsIndex_toString hbound).head?_ne_brace,
            fieldIndex_toString hbound]
          dsimp only
          rw [ih h.tail, List.append_nil, List.reverse_reverse, String.ofList_toList]

/-- **Reading undoes printing** on segments in normal form. -/
theorem read_print {segments : List Segment} (h : Normal segments) :
    read (print segments) = .ok segments := by
  rw [read, print, String.toList_ofList, readFrom_print h]

/-- A character other than a digit and a brace stands in a template only if it stands in a
literal. -/
theorem not_mem_print {c : Char} {segments : List Segment} (hdigit : isDigit c = false)
    (hopen : c ≠ '{') (hclose : c ≠ '}') (h : ∀ s ∈ segments, c ∉ s.literal.toList) :
    c ∉ (print segments).toList := by
  rw [print, String.toList_ofList, List.mem_flatMap]
  rintro ⟨s, hs, hmem⟩
  rw [printSegment, List.mem_append, escape, List.mem_flatMap, List.mem_flatMap] at hmem
  rcases hmem with ⟨d, hd, hmem⟩ | ⟨i, -, hmem⟩
  · obtain rfl : c = d := by
      rw [escapeChar] at hmem
      split at hmem <;> simpa using hmem
    exact h s hs hd
  · have hmem : c ∈ (toString i).toList := by
      simpa [placeholder, hopen, hclose] using hmem
    exact ne_of_isDigit (isDigit_of_mem_toString hmem) hdigit rfl

end Phrasebook.Template
