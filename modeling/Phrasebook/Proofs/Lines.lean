import Mathlib.Data.List.Basic
import Mathlib.Data.List.Induction
import Phrasebook.Line.Split
import Phrasebook.Proofs.Utf8

/-!
# The lines of a text

A definition file is cut into lines before it is read as text (`Line.split`). For a file
that is text there is a second reading, on characters: cut the text at its line feeds, take
the carriage return from the end of each stretch that a line feed follows, and leave out the
rest if it is empty (`Line.ofText`). Both readings give the same lines, because the byte of a
line feed or of a carriage return never occurs inside another character.

A file can be cut in two between its lines. If the first part ends with a line feed, or is
empty, the lines of the whole are those of the one part and then those of the other.

## Main results

* `split_encode`: cutting the bytes of a text gives the bytes of the lines of the text.
* `split_append`: the lines of a file that is cut after a line feed.
* `exists_lastLine`: every file is cut in two before its last line, if that has no line feed.
-/

namespace Phrasebook.Line

/-- A line without the carriage return at its end. -/
def withoutReturn (cs : List Char) : List Char :=
  if cs.getLast? = some '\r' then cs.dropLast else cs

/-- The lines of a text, given the stretches between its line feeds. -/
def ofStretches : List (List Char) → List (List Char)
  | [] => []
  | [rest] => if rest = [] then [] else [rest]
  | stretch :: more => withoutReturn stretch :: ofStretches more

/-- The lines of a text. -/
def ofText (s : String) : List String :=
  (ofStretches (s.toList.splitOn '\n')).map String.ofList

/-- A stretch that a line feed follows is a line. -/
theorem ofStretches_cons (stretch : List Char) {more : List (List Char)} (h : more ≠ []) :
    ofStretches (stretch :: more) = withoutReturn stretch :: ofStretches more := by
  cases more with
  | nil => exact absurd rfl h
  | cons next more => rfl

/-- A text that begins with a line and its line feed has this line first. -/
theorem ofText_append_lineFeed {line : String} (h : '\n' ∉ line.toList) (rest : String) :
    ofText (line ++ "\n" ++ rest) =
      String.ofList (withoutReturn line.toList) :: ofText rest := by
  have hsplit : (line ++ "\n" ++ rest).toList.splitOn '\n' =
      line.toList :: rest.toList.splitOn '\n' := by
    rw [String.toList_append, String.toList_append, List.append_assoc]
    exact List.splitOn_append_cons_self_of_not_mem h rest.toList
  rw [ofText, hsplit, ofStretches_cons _ (List.splitOn_ne_nil _ _), List.map_cons]
  rfl

/-- Putting nothing in front of the first line changes no line. -/
theorem modifyHead_nil_append (ls : List (List Char)) : ls.modifyHead ([] ++ ·) = ls := by
  cases ls <;> rfl

/-! ### Bytes and characters -/

/-- An ASCII byte stands in the bytes of a character only if it is that character. -/
theorem eq_of_mem_encodeChar {b : UInt8} {c : Char} (hb : b.toNat < 0x80)
    (h : b ∈ String.utf8EncodeChar c) : c.toNat = b.toNat := by
  by_cases hc : c.toNat < 0x80
  · rw [Utf8.encodeChar_ascii hc, List.mem_singleton] at h
    rw [h, UInt8.toNat_ofNat']
    omega
  · have := Utf8.high_of_mem_encodeChar (by omega) h
    omega

/-- No byte of a character other than the line feed ends a line. -/
theorem lineFeed_not_mem_encodeChar {c : Char} (h : c ≠ '\n') :
    lineFeed ∉ String.utf8EncodeChar c := by
  intro hmem
  exact h (Char.toNat_inj.mp (eq_of_mem_encodeChar (by decide) hmem))

/-- The last byte of a character other than the carriage return is no carriage return. -/
theorem carriageReturn_not_mem_encodeChar {c : Char} (h : c ≠ '\r') :
    carriageReturn ∉ String.utf8EncodeChar c := by
  intro hmem
  exact h (Char.toNat_inj.mp (eq_of_mem_encodeChar (by decide) hmem))

/-- Bytes without a line feed are added to the current line. -/
theorem splitFrom_append {bs : Bytes} (h : lineFeed ∉ bs) (current rest : Bytes) :
    splitFrom current (bs ++ rest) = splitFrom (bs.reverse ++ current) rest := by
  induction bs generalizing current with
  | nil => rfl
  | cons b bs ih =>
      rw [List.mem_cons, not_or] at h
      rw [List.cons_append, splitFrom, if_neg (Ne.symm h.1), ih h.2, List.reverse_cons,
        List.append_assoc, List.singleton_append]

/-- A line whose last byte is no carriage return stays as it is. -/
theorem dropReturn_eq_self {bs : Bytes} (h : bs.head? ≠ some carriageReturn) :
    dropReturn bs = bs := by
  cases bs with
  | nil => rfl
  | cons b bs =>
      rw [dropReturn, if_neg]
      rintro rfl
      exact h rfl

/-- Taking the carriage return off the bytes of a line takes it off the line. -/
theorem dropReturn_encode (cs : List Char) :
    (dropReturn (Utf8.encode (String.ofList cs)).reverse).reverse =
      Utf8.encode (String.ofList (withoutReturn cs)) := by
  rcases List.eq_nil_or_concat cs with rfl | ⟨cs, c, rfl⟩
  · rfl
  · rw [List.concat_eq_append]
    by_cases hc : c = '\r'
    · subst hc
      rw [withoutReturn, if_pos List.getLast?_concat, List.dropLast_concat,
        Utf8.encode_ofList_append, List.reverse_append]
      change (dropReturn (carriageReturn :: (Utf8.encode (String.ofList cs)).reverse)).reverse = _
      rw [dropReturn, if_pos rfl, List.reverse_reverse]
    · have hlast : (Utf8.encode (String.ofList (cs ++ [c]))).getLast? ≠ some carriageReturn := by
        rw [Utf8.encode_ofList_append, Utf8.encode_singleton,
          List.getLast?_append_of_ne_nil _ String.utf8EncodeChar_ne_nil]
        intro h
        exact carriageReturn_not_mem_encodeChar hc (List.mem_of_getLast? h)
      rw [← List.head?_reverse] at hlast
      rw [withoutReturn, if_neg (by simpa using hc), dropReturn_eq_self hlast, List.reverse_reverse]

/-- The bytes of a text after those of the current line are cut where the text is. -/
theorem splitFrom_encode (current cs : List Char) :
    splitFrom (Utf8.encode (String.ofList current)).reverse (Utf8.encode (String.ofList cs)) =
      (ofStretches ((cs.splitOn '\n').modifyHead (current ++ ·))).map
        (Utf8.encode ∘ String.ofList) := by
  induction cs generalizing current with
  | nil =>
      rw [List.splitOn_nil, List.modifyHead_cons, List.append_nil, ofStretches]
      by_cases hc : current = []
      · subst hc
        rfl
      · have hne : (Utf8.encode (String.ofList current)).reverse.isEmpty = false := by
          simpa [Utf8.encode_ofList_eq_nil_iff] using hc
        rw [if_neg hc, String.ofList_nil, Utf8.encode_empty, splitFrom, if_neg (by simp [hne]),
          List.reverse_reverse]
        rfl
  | cons c cs ih =>
      rw [List.splitOn_cons_eq_if_modifyHead, Utf8.encode_ofList_cons]
      by_cases hc : c = '\n'
      · subst hc
        have hrest : splitFrom [] (Utf8.encode (String.ofList cs)) =
            (ofStretches (cs.splitOn '\n')).map (Utf8.encode ∘ String.ofList) := by
          rw [← modifyHead_nil_append (cs.splitOn '\n'), ← ih [], String.ofList_nil,
            Utf8.encode_empty, List.reverse_nil]
        change (dropReturn _).reverse :: splitFrom [] (Utf8.encode (String.ofList cs)) = _
        rw [dropReturn_encode, beq_self_eq_true, if_pos rfl, List.modifyHead_cons, List.append_nil,
          ofStretches_cons current (List.splitOn_ne_nil _ _), List.map_cons, hrest]
        rfl
      · have hstep := ih (current ++ [c])
        rw [Utf8.encode_ofList_append, Utf8.encode_singleton, List.reverse_append] at hstep
        rw [splitFrom_append (lineFeed_not_mem_encodeChar hc), hstep, if_neg (by simpa using hc),
          List.modifyHead_modifyHead]
        simp only [List.append_assoc, List.singleton_append, Function.comp_def]

/-- **Cutting the bytes of a text gives the bytes of its lines.** -/
theorem split_encode (s : String) : split (Utf8.encode s) = (ofText s).map Utf8.encode := by
  have h := splitFrom_encode [] s.toList
  rw [modifyHead_nil_append, String.ofList_toList, String.ofList_nil, Utf8.encode_empty,
    List.reverse_nil] at h
  rw [split, h, ofText, List.map_map]

/-! ### Cutting a file between its lines -/

/-- Bytes that are whole lines: none at all, or such that the last line has its line feed. -/
def Whole (bs : Bytes) : Prop :=
  bs = [] ∨ bs.getLast? = some lineFeed

instance (bs : Bytes) : Decidable (Whole bs) :=
  inferInstanceAs (Decidable (_ ∨ _))

/-- After a line feed, the lines are cut from an empty line. -/
theorem splitFrom_append_of_getLast? {bs : Bytes} (h : bs.getLast? = some lineFeed)
    (current rest : Bytes) :
    splitFrom current (bs ++ rest) = splitFrom current bs ++ split rest := by
  induction bs generalizing current with
  | nil => exact absurd h (by simp)
  | cons b bs ih =>
      rw [List.cons_append, splitFrom, splitFrom]
      rcases bs with - | ⟨next, bs⟩
      · obtain rfl : b = lineFeed := by simpa using h
        rfl
      · have hlast : (next :: bs).getLast? = some lineFeed := by
          rwa [List.getLast?_cons_cons] at h
        split
        · rw [ih hlast, List.cons_append]
        · exact ih hlast _

/-- **The lines of a file that is cut after a line feed** are those of its two parts. -/
theorem split_append {bs : Bytes} (h : Whole bs) (rest : Bytes) :
    split (bs ++ rest) = split bs ++ split rest := by
  rcases h with rfl | h
  · rfl
  · exact splitFrom_append_of_getLast? h [] rest

/-- Bytes are whole lines and then a line without its line feed, which may be empty. -/
theorem exists_lastLine (bytes : Bytes) :
    ∃ lines line, bytes = lines ++ line ∧ Whole lines ∧ lineFeed ∉ line := by
  induction bytes using List.reverseRecOn with
  | nil => exact ⟨[], [], rfl, .inl rfl, List.not_mem_nil⟩
  | append_singleton bytes b ih =>
      by_cases hb : b = lineFeed
      · subst hb
        exact ⟨bytes ++ [lineFeed], [], (List.append_nil _).symm, .inr List.getLast?_concat,
          List.not_mem_nil⟩
      · obtain ⟨lines, line, rfl, hlines, hline⟩ := ih
        refine ⟨lines, line ++ [b], List.append_assoc _ _ _, hlines, ?_⟩
        simp [hline, Ne.symm hb]

/-- A last line without its line feed is not empty if the bytes are not whole lines. -/
theorem exists_unfinished {bytes : Bytes} (h : ¬ Whole bytes) :
    ∃ lines line, bytes = lines ++ line ∧ Whole lines ∧ lineFeed ∉ line ∧ line ≠ [] := by
  obtain ⟨lines, line, rfl, hlines, hline⟩ := exists_lastLine bytes
  refine ⟨lines, line, rfl, hlines, hline, ?_⟩
  rintro rfl
  exact h ((List.append_nil lines).symm ▸ hlines)

/-- A line and its line feed are the first line. -/
theorem split_line {line : Bytes} (h : lineFeed ∉ line) (rest : Bytes) :
    split (line ++ lineFeed :: rest) = (dropReturn line.reverse).reverse :: split rest := by
  rw [split, splitFrom_append h, List.append_nil, splitFrom, if_pos rfl, split]

/-- A line without its line feed is the only line. -/
theorem split_unfinished {line : Bytes} (h : lineFeed ∉ line) (hne : line ≠ []) :
    split line = [line] := by
  have hsplit := splitFrom_append h [] []
  rw [List.append_nil, List.append_nil] at hsplit
  rw [split, hsplit, splitFrom, if_neg (by simpa using hne), List.reverse_reverse]

end Phrasebook.Line
