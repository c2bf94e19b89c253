import Mathlib.Data.List.TakeWhile
import Phrasebook.Text.Blank

/-!
# Cutting and trimming texts

Readers go through a text from left to right and cut it where a kind of characters ends. Such a
cut is determined by the text: where two texts are equal and each is cut where the kind ends, the
parts are equal. Trimming cuts blanks off at both ends, and nothing else.

## Main results

* `append_cancel_of_boundary`, `append_cancel_of_not_mem`: a cut is determined by the text.
* `Text.trim_append`, `Text.exists_trim`, `Text.trimmed_trim`: trimming takes off the blanks at both
  ends and nothing else.
-/

namespace Phrasebook

/-! ### Cutting texts -/

/-- A text has nothing of a kind in front if its first character is not of that kind. -/
theorem takeWhile_eq_nil_of_head? {p : Char → Bool} {cs : List Char}
    (h : cs.head?.any p = false) : cs.takeWhile p = [] := by
  rcases cs with - | ⟨c, cs⟩
  · rfl
  · exact List.takeWhile_cons_of_neg (Bool.not_eq_true _ ▸ h)

/-- Nothing is dropped from a text whose first character is not of the kind. -/
theorem dropWhile_eq_self_of_head? {p : Char → Bool} {cs : List Char}
    (h : cs.head?.any p = false) : cs.dropWhile p = cs := by
  have hcut := List.takeWhile_append_dropWhile (p := p) (l := cs)
  rwa [takeWhile_eq_nil_of_head? h, List.nil_append] at hcut

/-- What is left after a kind of characters has been dropped does not begin with one of them. -/
theorem head?_dropWhile_any (p : Char → Bool) (cs : List Char) :
    (cs.dropWhile p).head?.any p = false := by
  have hstop := List.head?_dropWhile_not p cs
  cases hhead : (cs.dropWhile p).head? with
  | none => rfl
  | some c =>
      rw [hhead] at hstop
      exact hstop

/-- Two equal texts that are cut where a kind of characters ends have equal parts. -/
theorem append_cancel_of_boundary (p : Char → Bool) {xs ys rest rest' : List Char}
    (hxs : ∀ c ∈ xs, p c = true) (hys : ∀ c ∈ ys, p c = true)
    (hrest : rest.head?.any p = false) (hrest' : rest'.head?.any p = false)
    (h : xs ++ rest = ys ++ rest') : xs = ys ∧ rest = rest' := by
  have htake := congrArg (List.takeWhile p) h
  rw [List.takeWhile_append_of_pos hxs, List.takeWhile_append_of_pos hys,
    takeWhile_eq_nil_of_head? hrest, takeWhile_eq_nil_of_head? hrest', List.append_nil,
    List.append_nil] at htake
  exact ⟨htake, List.append_cancel_left (htake ▸ h)⟩

/-- Two equal texts that are cut at a character which has not occurred before have equal parts. -/
theorem append_cancel_of_not_mem {c : Char} {xs ys rest rest' : List Char} (hxs : c ∉ xs)
    (hys : c ∉ ys) (h : xs ++ c :: rest = ys ++ c :: rest') : xs = ys ∧ rest = rest' := by
  have hother {zs : List Char} (hzs : c ∉ zs) : ∀ d ∈ zs, (d != c) = true := by
    rintro d hd
    exact bne_iff_ne.mpr fun heq => hzs (heq ▸ hd)
  have hstop (cs : List Char) : (c :: cs).head?.any (· != c) = false := by
    simp
  obtain ⟨hparts, hrests⟩ := append_cancel_of_boundary (· != c) (hother hxs) (hother hys)
    (hstop rest) (hstop rest') h
  exact ⟨hparts, List.tail_eq_of_cons_eq hrests⟩

/-- A separator before a separated row stands before every entry. -/
theorem append_intercalate {ι : Type} {sep : List Char} {f : ι → List Char} {row : List ι}
    (h : row ≠ []) :
    sep ++ sep.intercalate (row.map f) = row.flatMap fun i => sep ++ f i := by
  induction row with
  | nil => exact absurd rfl h
  | cons i rest ih =>
      cases rest with
      | nil => simp
      | cons j rest =>
          have hrest := ih (List.cons_ne_nil j rest)
          rw [List.map_cons, List.map_cons, List.intercalate_cons_cons, List.append_assoc,
            ← List.map_cons, hrest]
          simp

/-! ### Blanks at the ends -/

namespace Text

/-- All characters of a text are blank. -/
def AllBlank (cs : List Char) : Prop :=
  ∀ c ∈ cs, isBlank c = true

instance (cs : List Char) : Decidable (AllBlank cs) :=
  List.decidableBAll (fun c => isBlank c = true) cs

/-- Blanks are blanks in the opposite order. -/
theorem AllBlank.reverse {cs : List Char} (h : AllBlank cs) : AllBlank cs.reverse :=
  fun c hc => h c (List.mem_reverse.mp hc)

/-- A text that neither begins nor ends with a blank. -/
structure Trimmed (cs : List Char) : Prop where
  start : cs.head?.any isBlank = false
  stop : cs.getLast?.any isBlank = false

/-- A text without blanks is trimmed. -/
theorem trimmed_of_forall {cs : List Char} (h : ∀ c ∈ cs, isBlank c = false) : Trimmed cs where
  start := (Option.any_eq_false _ _).mpr fun c hc => h c (List.mem_of_head? hc)
  stop := (Option.any_eq_false _ _).mpr fun c hc => h c (List.mem_of_getLast? hc)

/-- Blanks are dropped up to the first character that is not blank. -/
theorem dropWhile_append_of_blank {before cs : List Char} (hbefore : AllBlank before)
    (hcs : cs.head?.any isBlank = false) : (before ++ cs).dropWhile isBlank = cs := by
  rw [List.dropWhile_append_of_pos hbefore, dropWhile_eq_self_of_head? hcs]

/-- Blanks after a text that does not end with one are trimmed. -/
theorem trimEnd_append {cs after : List Char} (hcs : cs.getLast?.any isBlank = false)
    (hafter : AllBlank after) : trimEnd (cs ++ after) = cs := by
  rw [← List.head?_reverse] at hcs
  rw [trimEnd, List.reverse_append, dropWhile_append_of_blank hafter.reverse hcs,
    List.reverse_reverse]

/-- **Trimming takes off the blanks** around a text that neither begins nor ends with one. -/
theorem trim_append {before cs after : List Char} (hbefore : AllBlank before) (hcs : Trimmed cs)
    (hafter : AllBlank after) : trim (before ++ cs ++ after) = cs := by
  rw [trim, trimStart, List.append_assoc, List.dropWhile_append_of_pos hbefore]
  rcases cs with - | ⟨c, cs⟩
  · rw [List.nil_append, List.dropWhile_eq_nil_iff.mpr hafter]
    rfl
  · have hhead : (c :: cs ++ after).head?.any isBlank = false := hcs.start
    rw [dropWhile_eq_self_of_head? hhead]
    exact trimEnd_append hcs.stop hafter

/-- **Trimming takes off nothing but blanks.** -/
theorem exists_trim (cs : List Char) :
    ∃ before after, cs = before ++ trim cs ++ after ∧ AllBlank before ∧ AllBlank after := by
  have hstart := List.takeWhile_append_dropWhile (p := isBlank) (l := cs)
  have hend := List.takeWhile_append_dropWhile (p := isBlank) (l := (trimStart cs).reverse)
  refine ⟨cs.takeWhile isBlank, ((trimStart cs).reverse.takeWhile isBlank).reverse, ?_, ?_, ?_⟩
  · rw [List.append_assoc, trim, trimEnd, ← List.reverse_append, hend, List.reverse_reverse]
    exact hstart.symm
  · exact fun c hc => List.mem_takeWhile_imp hc
  · exact fun c hc => List.mem_takeWhile_imp (List.mem_reverse.mp hc)

/-- What is left after trimming is trimmed: blanks at the end are taken off something that does not
begin with one. -/
theorem trimmed_trim (cs : List Char) : Trimmed (trim cs) where
  start := by
    have hstart : (trimStart cs).head?.any isBlank = false := head?_dropWhile_any isBlank cs
    have hsplit := List.takeWhile_append_dropWhile (p := isBlank) (l := (trimStart cs).reverse)
    have hprefix := congrArg List.reverse hsplit
    rw [List.reverse_append, List.reverse_reverse] at hprefix
    rw [trim, trimEnd]
    cases hend : ((trimStart cs).reverse.dropWhile isBlank).reverse with
    | nil => rfl
    | cons c rest =>
        rw [hend] at hprefix
        rwa [← hprefix] at hstart
  stop := by
    rw [trim, trimEnd, List.getLast?_reverse]
    exact head?_dropWhile_any isBlank _

end Text

end Phrasebook
