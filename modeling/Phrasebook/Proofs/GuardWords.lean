import Mathlib.Data.List.Chain
import Phrasebook.Proofs.IncludeGuard
import Phrasebook.Proofs.Texts

/-!
# The words of a guard name

A guard name is found by replacing, trimming and putting in front. It can be said without any of
this: take the *words* of the text, which are its maximal runs of letters and digits, capitalize
them, put single underscores between them, and one more in front if the first word begins with a
digit. Everything else follows from this form. The words of a guard name are the capitalized words
of the text, so naming a name again changes nothing, and neither does the case of the text.

Collapsing leaves the words with single underscores between them, and perhaps one at either end
(`exists_collapse_true`), which trimming takes off. Only then are letters capitalized, when all that
is left are letters, digits and underscores; what a way to capitalize does with other characters
does not show.

## Main results

* `text_induction`: a text is a row of words and other characters.
* `trimUnderscores_collapse`: what collapsing and trimming leave are the words.
* `words_ofText`: the words of a guard name.
* `ofText_word_form`: a guard name in terms of words, and what follows from it.
-/

namespace Phrasebook.GuardName

/-! ### Words -/

/-- The words of a text: its maximal runs of letters and digits. -/
def words (cs : List Char) : List (List Char) :=
  (cs.splitOnP fun c => !isWordChar c).filter fun w => !w.isEmpty

/-- A text of letters and digits, with at least one of them. -/
structure IsWord (w : List Char) : Prop where
  nonempty : w ≠ []
  chars : ∀ c ∈ w, isWordChar c = true

/-- The empty text has no words. -/
theorem words_nil : words [] = [] :=
  rfl

/-- A character that is no letter or digit parts the words before it from those after it. -/
theorem words_append_cons {c : Char} (hc : isWordChar c = false) (xs ys : List Char) :
    words (xs ++ c :: ys) = words xs ++ words ys := by
  rw [words, List.splitOnP_append_cons xs ys (by simp [hc]), List.filter_append]
  rfl

/-- A character in front that is no letter or digit belongs to no word. -/
theorem words_skip {c : Char} (hc : isWordChar c = false) (cs : List Char) :
    words (c :: cs) = words cs :=
  words_append_cons hc [] cs

/-- A word is the only word of itself. -/
theorem IsWord.words_eq {w : List Char} (hw : IsWord w) : words w = [w] := by
  rw [words, List.splitOnP_eq_singleton fun c hc => by simp [hw.chars c hc]]
  simp [hw.nonempty]

/-- A word that ends where a run of letters and digits ends comes first. -/
theorem IsWord.words_append {w cs : List Char} (hw : IsWord w)
    (hcs : cs.head?.any isWordChar = false) : words (w ++ cs) = w :: words cs := by
  rcases cs with - | ⟨c, cs⟩
  · rw [List.append_nil, hw.words_eq, words_nil]
  · rw [words_append_cons hcs, hw.words_eq, words_skip hcs, List.singleton_append]

/-- **A text is a row of words and other characters.** A run of letters and digits is taken as a whole,
so the induction is on the length. -/
theorem text_induction {P : List Char → Prop} (nil : P [])
    (skip : ∀ c cs, isWordChar c = false → P cs → P (c :: cs))
    (run : ∀ w cs, IsWord w → cs.head?.any isWordChar = false → P cs → P (w ++ cs))
    (cs : List Char) : P cs := by
  induction hn : cs.length using Nat.strong_induction_on generalizing cs with
  | _ n ih =>
      subst hn
      rcases cs with - | ⟨c, cs⟩
      · exact nil
      by_cases hc : isWordChar c = true
      · have hsplit : (c :: cs).takeWhile isWordChar ++ (c :: cs).dropWhile isWordChar = c :: cs :=
          List.takeWhile_append_dropWhile
        have htake : (c :: cs).takeWhile isWordChar = c :: cs.takeWhile isWordChar :=
          List.takeWhile_cons_of_pos hc
        have hshorter : ((c :: cs).dropWhile isWordChar).length < (c :: cs).length := by
          rw [List.dropWhile_cons_of_pos hc, List.length_cons, Nat.lt_succ_iff]
          exact (List.dropWhile_sublist _).length_le
        rw [← hsplit]
        refine run _ _ ⟨?_, fun d hd => List.mem_takeWhile_imp hd⟩ (head?_dropWhile_any _ _)
          (ih _ hshorter _ rfl)
        rw [htake]
        exact List.cons_ne_nil _ _
      · exact skip c cs (Bool.eq_false_iff.mpr hc) (ih _ (Nat.lt_succ_self _) _ rfl)

/-- The words of a text are words. -/
theorem isWord_of_mem_words {cs w : List Char} (h : w ∈ words cs) : IsWord w := by
  induction cs using text_induction with
  | nil => exact absurd h List.not_mem_nil
  | skip c cs hc ih =>
      rw [words_skip hc] at h
      exact ih h
  | run v cs hv hcs ih =>
      rw [hv.words_append hcs] at h
      rcases List.mem_cons.mp h with rfl | h
      · exact hv
      · exact ih h

/-- A text without letters and digits has no words. -/
theorem words_eq_nil_iff {cs : List Char} :
    words cs = [] ↔ ∀ c ∈ cs, isWordChar c = false := by
  induction cs using text_induction with
  | nil => simp [words_nil]
  | skip c cs hc ih => rw [words_skip hc, List.forall_mem_cons, ih, and_iff_right hc]
  | run w cs hw hcs ih =>
      obtain ⟨c, rest, rfl⟩ := List.exists_cons_of_ne_nil hw.nonempty
      have hc := hw.chars c List.mem_cons_self
      rw [hw.words_append hcs]
      simp [hc]

/-! ### Rows of words -/

/-- The words of a row, with single underscores between them. -/
def row (ws : List (List Char)) : List Char :=
  ['_'].intercalate ws

/-- Without words, there is nothing in a row. -/
theorem row_nil : row [] = [] :=
  rfl

/-- One word stands alone, without an underscore. -/
theorem row_singleton (w : List Char) : row [w] = w := by
  simp [row]

/-- An underscore stands between the first word and the others. -/
theorem row_cons {w : List Char} {ws : List (List Char)} (h : ws ≠ []) :
    row (w :: ws) = w ++ '_' :: row ws := by
  obtain ⟨v, vs, rfl⟩ := List.exists_cons_of_ne_nil h
  simp [row, List.intercalate_cons_cons]

/-- A change of characters that leaves underscores acts word by word. -/
theorem map_row {f : Char → Char} (hf : f '_' = '_') (ws : List (List Char)) :
    (row ws).map f = row (ws.map (List.map f)) := by
  induction ws with
  | nil => rfl
  | cons w ws ih =>
      by_cases hws : ws = []
      · simp [hws, row_singleton]
      · rw [row_cons hws, List.map_append, List.map_cons, hf, ih, List.map_cons, row_cons (by simpa)]

/-- An underscore belongs to no word. -/
theorem isWordChar_underscore : isWordChar '_' = false := by
  decide

/-- A word has no underscore. -/
theorem IsWord.underscore_notMem {w : List Char} (hw : IsWord w) : '_' ∉ w :=
  fun h => Bool.false_ne_true (isWordChar_underscore.symm.trans (hw.chars _ h))

/-- Two characters that are not both underscores. -/
def Apart (c d : Char) : Prop :=
  ¬ (c = '_' ∧ d = '_')

section

variable {ws : List (List Char)} (hws : ∀ w ∈ ws, IsWord w)
include hws

/-- The words of a row are those that it was made of. -/
theorem words_row : words (row ws) = ws := by
  induction ws with
  | nil => rfl
  | cons w ws ih =>
      have hw := hws w List.mem_cons_self
      by_cases h : ws = []
      · rw [h, row_singleton, hw.words_eq]
      · rw [row_cons h, words_append_cons isWordChar_underscore, hw.words_eq,
          ih fun v hv => hws v (List.mem_cons_of_mem w hv), List.singleton_append]

/-- Words with an underscore before each of them and one at the end have no two underscores next to
each other. -/
theorem isChain_fenced : (ws.flatMap ('_' :: ·) ++ ['_']).IsChain Apart := by
  induction ws with
  | nil => exact .singleton _
  | cons w ws ih =>
      have hw := hws w List.mem_cons_self
      have hinside : w.IsChain Apart := by
        refine List.isChain_iff_forall_rel_of_append_cons_cons.mpr ?_
        rintro c d before after rfl ⟨rfl, -⟩
        exact hw.underscore_notMem (by simp)
      rw [List.flatMap_cons, List.append_assoc, List.cons_append, List.isChain_cons,
        List.isChain_append]
      refine ⟨?_, hinside, ih fun v hv => hws v (List.mem_cons_of_mem w hv), ?_⟩
      · rintro c hc ⟨-, rfl⟩
        rw [List.head?_append_of_ne_nil _ hw.nonempty] at hc
        exact hw.underscore_notMem (List.mem_of_head? hc)
      · rintro c hc d - ⟨rfl, -⟩
        exact hw.underscore_notMem (List.mem_of_getLast? hc)

/-- A row of words has no two underscores next to each other, also if there is one more at either
end. -/
theorem isChain_row (hne : ws ≠ []) : ('_' :: (row ws ++ ['_'])).IsChain Apart := by
  have hfence : '_' :: row ws = ws.flatMap ('_' :: ·) := by
    have hrow : ['_'] ++ ['_'].intercalate (ws.map id) = ws.flatMap fun w => ['_'] ++ id w :=
      append_intercalate hne
    rwa [List.map_id] at hrow
  rw [← List.cons_append, hfence]
  exact isChain_fenced hws

/-- A row does not begin with an underscore. -/
theorem head?_row_ne : (row ws).head? ≠ some '_' := by
  intro h
  by_cases hne : ws = []
  · rw [hne] at h
    cases h
  · obtain ⟨rest, hrest⟩ := List.head?_eq_some_iff.mp h
    have hchain := isChain_row hws hne
    rw [hrest] at hchain
    exact (List.isChain_cons_cons.mp hchain).1 ⟨rfl, rfl⟩

/-- A row does not end with an underscore. -/
theorem getLast?_row_ne : (row ws).getLast? ≠ some '_' := by
  intro h
  by_cases hne : ws = []
  · rw [hne] at h
    cases h
  · have hchain := (isChain_row hws hne).tail
    exact (List.isChain_append.mp hchain).2.2 _ h '_' rfl ⟨rfl, rfl⟩

end

/-! ### Collapsing and trimming -/

/-- Letters and digits are left as they are. -/
theorem IsWord.collapse_append {w : List Char} (hw : IsWord w) (after : Bool) (cs : List Char) :
    collapse after (w ++ cs) = w ++ collapse false cs := by
  obtain ⟨hne, hchars⟩ := hw
  induction w generalizing after with
  | nil => exact absurd rfl hne
  | cons c w ih =>
      rw [List.cons_append, collapse, if_pos (hchars c List.mem_cons_self)]
      by_cases hw : w = []
      · rw [hw]
        rfl
      · rw [ih false hw fun d hd => hchars d (List.mem_cons_of_mem c hd)]
        rfl

/-- Whether a run has just been replaced shows in an underscore in front only. -/
theorem exists_collapse_false (cs : List Char) :
    ∃ n, collapse false cs = List.replicate n '_' ++ collapse true cs := by
  rcases cs with - | ⟨c, cs⟩
  · exact ⟨0, rfl⟩
  by_cases hc : isWordChar c = true
  · refine ⟨0, ?_⟩
    simp [collapse, hc]
  · refine ⟨1, ?_⟩
    simp [collapse, hc]

/-- After a run that has been replaced, collapsing leaves the words in a row, and perhaps
underscores at the end. The character after a word becomes the underscore before the next one. -/
theorem exists_collapse_true (cs : List Char) :
    ∃ n, collapse true cs = row (words cs) ++ List.replicate n '_' := by
  induction cs using text_induction with
  | nil => exact ⟨0, rfl⟩
  | skip c cs hc ih =>
      obtain ⟨n, hn⟩ := ih
      refine ⟨n, ?_⟩
      rw [words_skip hc, ← hn, collapse, if_neg (by simp [hc]), if_pos rfl]
  | run w cs hw hcs ih =>
      obtain ⟨n, hn⟩ := ih
      rw [hw.collapse_append, hw.words_append hcs]
      rcases cs with - | ⟨c, cs⟩
      · exact ⟨0, by simp [collapse, words_nil, row_singleton]⟩
      · have hbreak : collapse false (c :: cs) = '_' :: collapse true (c :: cs) := by
          have hc : ¬ isWordChar c = true := by simpa using hcs
          simp [collapse, hc]
        rw [hbreak, hn]
        by_cases hempty : words (c :: cs) = []
        · refine ⟨n + 1, ?_⟩
          rw [hempty, row_nil, row_singleton, List.replicate_succ, List.nil_append]
        · refine ⟨n, ?_⟩
          rw [row_cons hempty]
          simp

/-- Underscores around a text that neither begins nor ends with one are trimmed. -/
theorem trimUnderscores_append {cs : List Char} (hhead : cs.head? ≠ some '_')
    (hlast : cs.getLast? ≠ some '_') (m n : Nat) :
    trimUnderscores (List.replicate m '_' ++ (cs ++ List.replicate n '_')) = cs := by
  have hmarks (k : Nat) : ∀ c ∈ List.replicate k '_', (c == '_') = true := by
    intro c hc
    rw [List.eq_of_mem_replicate hc]
    rfl
  have hstop {ds : List Char} (h : ds.head? ≠ some '_') : ds.head?.any (· == '_') = false := by
    rw [Option.any_eq_false]
    intro c hc
    refine beq_eq_false_iff_ne.mpr fun heq => h ?_
    rw [← heq]
    exact hc
  rw [trimUnderscores, List.dropWhile_append_of_pos (hmarks m)]
  rcases cs with - | ⟨c, cs⟩
  · rw [List.nil_append, List.dropWhile_eq_nil_iff.mpr (hmarks n)]
    rfl
  · have hstart : (c :: cs ++ List.replicate n '_').head? ≠ some '_' := hhead
    rw [dropWhile_eq_self_of_head? (hstop hstart), List.reverse_append, List.reverse_replicate,
      List.dropWhile_append_of_pos (hmarks n), dropWhile_eq_self_of_head? (hstop ?_),
      List.reverse_reverse]
    rwa [List.head?_reverse]

/-- **What collapsing and trimming leave are the words**, with single underscores between them. -/
theorem trimUnderscores_collapse (cs : List Char) :
    trimUnderscores (collapse false cs) = row (words cs) := by
  have hwords : ∀ w ∈ words cs, IsWord w := fun _ => isWord_of_mem_words
  obtain ⟨m, hm⟩ := exists_collapse_false cs
  obtain ⟨n, hn⟩ := exists_collapse_true cs
  rw [hm, hn, trimUnderscores_append (head?_row_ne hwords) (getLast?_row_ne hwords)]

/-! ### Capitals -/

/-- Only ASCII characters have other characters as their capitals. -/
theorem toUpper_induction {P : Char → Char → Prop}
    (ascii : ∀ n < 128, P (Char.ofNat n) (Char.ofNat n).toUpper)
    (other : ∀ c : Char, c.toUpper = c → P c c) (c : Char) : P c c.toUpper := by
  by_cases hc : c.toNat < 128
  · have hascii := ascii c.toNat hc
    rwa [Char.ofNat_toNat] at hascii
  · have hself : c.toUpper = c := by
      refine dif_neg ?_
      rintro ⟨-, hz⟩
      rw [UInt32.le_iff_toNat_le] at hz
      exact hc (Nat.lt_of_le_of_lt hz (by decide))
    rw [hself]
    exact other c hself

/-- A capital is its own capital. -/
theorem toUpper_toUpper (c : Char) : c.toUpper.toUpper = c.toUpper :=
  toUpper_induction (P := fun _ d => d.toUpper = d) (by decide +kernel) (fun _ h => h) c

/-- A character is a letter or a digit exactly if its capital is. -/
theorem isWordChar_toUpper (c : Char) : isWordChar c.toUpper = isWordChar c :=
  toUpper_induction (P := fun c d => isWordChar d = isWordChar c) (by decide +kernel)
    (fun _ _ => rfl) c

/-- A character is a digit exactly if its capital is. -/
theorem isDigit_toUpper (c : Char) : Template.isDigit c.toUpper = Template.isDigit c :=
  toUpper_induction (P := fun c d => Template.isDigit d = Template.isDigit c) (by decide +kernel)
    (fun _ _ => rfl) c

/-- A word in capitals. -/
def capitalize (w : List Char) : List Char :=
  w.map Char.toUpper

/-- A word in capitals does not change when it is put in capitals. -/
theorem capitalize_capitalize (w : List Char) : capitalize (capitalize w) = capitalize w := by
  rw [capitalize, capitalize, List.map_map]
  exact List.map_congr_left fun c _ => toUpper_toUpper c

/-- A word stays a word in capitals. -/
theorem IsWord.capitalize {w : List Char} (hw : IsWord w) : IsWord (capitalize w) where
  nonempty h := hw.nonempty (List.map_eq_nil_iff.mp h)
  chars c hc := by
    obtain ⟨d, hd, rfl⟩ := List.mem_map.mp hc
    rw [isWordChar_toUpper, hw.chars d hd]

/-- What capitals do not change about a character, they do not change about the first one of a
text. -/
theorem any_head?_capitalize {p : Char → Bool} (hp : ∀ c : Char, p c.toUpper = p c)
    (cs : List Char) : (capitalize cs).head?.any p = cs.head?.any p := by
  rcases cs with - | ⟨c, cs⟩
  · rfl
  · exact hp c

/-- The words of a text in capitals are the words of the text, in capitals. -/
theorem words_capitalize (cs : List Char) : words (capitalize cs) = (words cs).map capitalize := by
  induction cs using text_induction with
  | nil => rfl
  | skip c cs hc ih =>
      have hupper : isWordChar c.toUpper = false := (isWordChar_toUpper c).trans hc
      rw [words_skip hc, ← ih]
      exact words_skip hupper _
  | run w cs hw hcs ih =>
      have hsplit : capitalize (w ++ cs) = capitalize w ++ capitalize cs := List.map_append
      have hupper : (capitalize cs).head?.any isWordChar = false :=
        (any_head?_capitalize isWordChar_toUpper cs).trans hcs
      rw [hsplit, hw.capitalize.words_append hupper, hw.words_append hcs, List.map_cons, ih]

/-- The words of a text are words when they are put in capitals. -/
theorem isWord_of_mem_map_capitalize {cs w : List Char} (h : w ∈ (words cs).map capitalize) :
    IsWord w := by
  rw [← words_capitalize] at h
  exact isWord_of_mem_words h

/-! ### The form of a guard name -/

/-- Whether the first word begins with a digit. -/
def startsWithDigit (ws : List (List Char)) : Bool :=
  ws.head?.any fun w => w.head?.any Template.isDigit

/-- Capitals do not change whether the first word begins with a digit. -/
theorem startsWithDigit_capitalize (ws : List (List Char)) :
    startsWithDigit (ws.map capitalize) = startsWithDigit ws := by
  rcases ws with - | ⟨w, ws⟩
  · rfl
  · exact any_head?_capitalize isDigit_toUpper w

/-- A leading digit is protected by an underscore. -/
theorem protectDigit_row {ws : List (List Char)} (hws : ∀ w ∈ ws, IsWord w) :
    protectDigit (row ws) = (if startsWithDigit ws then ['_'] else []) ++ row ws := by
  rcases ws with - | ⟨w, ws⟩
  · rfl
  obtain ⟨c, w, rfl⟩ := List.exists_cons_of_ne_nil (hws w List.mem_cons_self).nonempty
  obtain ⟨rest, hrest⟩ : ∃ rest, row ((c :: w) :: ws) = c :: rest := by
    by_cases h : ws = []
    · exact ⟨w, by rw [h, row_singleton]⟩
    · exact ⟨_, row_cons h⟩
  rw [hrest]
  change (if Template.isDigit c then '_' :: c :: rest else c :: rest) =
    (if Template.isDigit c then ['_'] else []) ++ c :: rest
  split <;> rfl

/-- The characters of a guard name. -/
theorem toList_ofText (s : String) :
    (ofText s).toList =
      (if startsWithDigit (words s.toList) then ['_'] else []) ++
        row ((words s.toList).map capitalize) := by
  have hwords : ∀ w ∈ (words s.toList).map capitalize, IsWord w :=
    fun _ => isWord_of_mem_map_capitalize
  have hrow : (row (words s.toList)).map Char.toUpper = row ((words s.toList).map capitalize) :=
    map_row rfl _
  rw [ofText, String.toList_ofList, trimUnderscores_collapse, hrow, protectDigit_row hwords,
    startsWithDigit_capitalize]

/-- **The words of a guard name** are those of the text, in capitals. -/
theorem words_ofText (s : String) :
    words (ofText s).toList = (words s.toList).map capitalize := by
  have hrow : words (row ((words s.toList).map capitalize)) = (words s.toList).map capitalize :=
    words_row fun _ => isWord_of_mem_map_capitalize
  rw [toList_ofText]
  split
  · rw [List.singleton_append, words_skip isWordChar_underscore, hrow]
  · exact hrow

/-- Texts whose words have the same capitals have the same guard name. -/
theorem ofText_congr {s t : String}
    (h : (words t.toList).map capitalize = (words s.toList).map capitalize) :
    ofText t = ofText s := by
  have hdigit : startsWithDigit (words t.toList) = startsWithDigit (words s.toList) := by
    rw [← startsWithDigit_capitalize, h, startsWithDigit_capitalize]
  rw [← String.toList_inj, toList_ofText, toList_ofText, h, hdigit]

/-- A guard name has no two underscores next to each other, and none at its end. -/
theorem ofText_apart (s : String) :
    (ofText s).toList.IsChain Apart ∧ (ofText s).toList.getLast? ≠ some '_' := by
  have hwords : ∀ w ∈ (words s.toList).map capitalize, IsWord w :=
    fun _ => isWord_of_mem_map_capitalize
  rw [toList_ofText]
  by_cases hne : (words s.toList).map capitalize = []
  · have hnil : words s.toList = [] := List.map_eq_nil_iff.mp hne
    rw [hne, hnil]
    exact ⟨.nil, nofun⟩
  · have hchain := isChain_row hwords hne
    rw [← List.cons_append] at hchain
    obtain ⟨hfront, -, hend⟩ := List.isChain_append.mp hchain
    split
    · exact ⟨hfront, fun hlast => hend _ hlast '_' rfl ⟨rfl, rfl⟩⟩
    · exact ⟨hfront.tail, getLast?_row_ne hwords⟩

/-- **A guard name in terms of words.** For every text:

* Its guard name are its words in capitals, with single underscores between them, and one in front
  exactly if the first word begins with a digit. It is empty exactly if the text has no letter and
  no digit.
* The guard name of a guard name is that name itself, and texts that differ in the case of their
  letters have the same guard name.
* It has no two underscores next to each other, and none at its end.
* Letters may be capitalized in any way that capitalizes ASCII characters as usual. What becomes of
  other characters does not show. -/
theorem ofText_word_form (s : String) :
    (ofText s = (if startsWithDigit (words s.toList) then "_" else "") ++
        "_".intercalate ((words s.toList).map fun w => String.ofList (capitalize w))) ∧
    (ofText s = "" ↔ ∀ c ∈ s.toList, isWordChar c = false) ∧
    ofText (ofText s) = ofText s ∧
    (∀ t : String, t.toList.map Char.toUpper = s.toList.map Char.toUpper → ofText t = ofText s) ∧
    (¬ ['_', '_'] <:+: (ofText s).toList ∧ (ofText s).toList.getLast? ≠ some '_') ∧
    ∀ upper : Char → List Char, (∀ c : Char, c.toNat < 128 → upper c = [c.toUpper]) →
      ofText s = String.ofList
        (protectDigit ((trimUnderscores (collapse false s.toList)).flatMap upper)) := by
  have hform := toList_ofText s
  refine ⟨?_, ?_, ?_, ?_, ⟨?_, (ofText_apart s).2⟩, ?_⟩
  · rw [← String.toList_inj, hform, String.toList_append, String.toList_intercalate, List.map_map]
    have hwords : String.toList ∘ (fun w => String.ofList (capitalize w)) = capitalize :=
      funext fun w => String.toList_ofList
    rw [hwords]
    split <;> rfl
  · rw [← words_eq_nil_iff]
    constructor
    · intro hempty
      have hwords := words_ofText s
      rw [hempty] at hwords
      exact List.map_eq_nil_iff.mp hwords.symm
    · intro hnone
      rw [← String.toList_inj, hform, hnone]
      rfl
  · refine ofText_congr ?_
    rw [words_ofText, List.map_map]
    exact List.map_congr_left fun w _ => capitalize_capitalize w
  · intro t ht
    refine ofText_congr ?_
    rw [← words_capitalize, ← words_capitalize]
    exact congrArg words ht
  · rintro ⟨before, after, h⟩
    have hchain := List.isChain_iff_forall_rel_of_append_cons_cons.mp (ofText_apart s).1
    have hsplit : (ofText s).toList = before ++ '_' :: '_' :: after := by
      rw [← h, List.append_assoc]
      rfl
    exact hchain hsplit ⟨rfl, rfl⟩
  · intro upper hupper
    have hascii : (trimUnderscores (collapse false s.toList)).map Char.toUpper =
        (trimUnderscores (collapse false s.toList)).flatMap upper := by
      rw [List.map_eq_flatMap]
      refine List.flatMap_congr fun c hc => (hupper c ?_).symm
      exact toNat_lt_of_isWordChar (mem_collapse (mem_of_mem_trimUnderscores hc))
    rw [ofText, hascii]

/-- A file name that begins with a digit, with a letter that is not ASCII and underscores at its end;
the name of another case; and a way to capitalize that makes two letters of one. -/
theorem ofText_word_form_digit :
    let s := "2fa..Größe_v1__"
    let upper : Char → List Char := fun c => if c = 'ß' then ['S', 'S'] else [c.toUpper]
    words s.toList = ["2fa".toList, "Gr".toList, "e".toList, "v1".toList] ∧
      ofText s = "_2FA_GR_E_V1" ∧ ofText "_2FA_GR_E_V1" = "_2FA_GR_E_V1" ∧
      ("2FA..gRößE_V1__".toList.map Char.toUpper = s.toList.map Char.toUpper ∧
        ofText "2FA..gRößE_V1__" = ofText s) ∧
      (∀ c : Char, c.toNat < 128 → upper c = [c.toUpper]) ∧
      String.ofList (protectDigit ((trimUnderscores (collapse false s.toList)).flatMap upper)) =
        "_2FA_GR_E_V1" := by
  intro s upper
  have hname : ofText s = "_2FA_GR_E_V1" := by decide +kernel
  have hcase : "2FA..gRößE_V1__".toList.map Char.toUpper = s.toList.map Char.toUpper := by
    decide +kernel
  have hupper : ∀ c : Char, c.toNat < 128 → upper c = [c.toUpper] := by
    intro c hc
    refine if_neg ?_
    rintro rfl
    exact absurd hc (by decide)
  obtain ⟨-, -, hagain, hcases, -, hupper'⟩ := ofText_word_form s
  rw [hname] at hagain hupper'
  exact ⟨by decide +kernel, hname, hagain, ⟨hcase, hcases _ hcase⟩, hupper,
    (hupper' upper hupper).symm⟩

end Phrasebook.GuardName
