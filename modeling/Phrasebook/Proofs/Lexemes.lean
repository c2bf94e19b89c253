import Mathlib.Data.List.Basic
import Phrasebook.Proofs.Texts
import Phrasebook.Proofs.Tokens

/-!
# The grammar of lines

A line that is neither blank nor a comment is a row of *lexemes*: blanks may stand in front of it,
and blanks may stand after each lexeme. A lexeme is a bare word or a quoted run. A bare word ends
only where a blank follows or the line ends, and a double quote in it is an ordinary character;
whatever follows a quoted run, the next lexeme may begin there. A *reading* of a line holds its
lexemes and its blanks (`Reading`).

No line has two readings, and a line that has none stops short: it is a reading after which another
lexeme may begin, and then a double quote which no other follows (`Readable`). The reader of lines
accepts the lines of the first kind, and reports the column of that quote for those of the second.

## Main results

* `tokensFrom_text`, `tokensFrom_text_append`: what the reader makes of a reading.
* `readable`: every text has a reading or stops short in a quoted run.
* `Reading.text_injective`: no text has two readings.
* `tokens_follow_grammar`: the reader of lines follows the grammar.
-/

namespace Phrasebook.Line

/-! ### Readings -/

/-- A bare word: no character of it is blank, and the first is no double quote. -/
structure IsWord (text : List Char) : Prop where
  nonblank : ∀ c ∈ text, Text.isBlank c = false
  start : ∃ c rest, text = c :: rest ∧ c ≠ '"'

/-- Whether a text is a bare word can be told from its characters. -/
theorem isWord_iff (text : List Char) :
    IsWord text ↔
      (text.all fun c => !Text.isBlank c) = true ∧ text.head?.any (· != '"') = true := by
  constructor
  · rintro ⟨hnonblank, c, rest, rfl, hc⟩
    exact ⟨by simpa using hnonblank, by simpa using hc⟩
  · rintro ⟨hnonblank, hstart⟩
    rcases text with - | ⟨c, rest⟩
    · cases hstart
    · exact ⟨by simpa using hnonblank, c, rest, rfl, by simpa using hstart⟩

instance (text : List Char) : Decidable (IsWord text) :=
  decidable_of_iff' _ (isWord_iff text)

/-- A lexeme of a line. -/
inductive Lexeme where
  | bare (text : List Char) (h : IsWord text)
  | quoted (text : List Char) (h : '"' ∉ text)

namespace Lexeme

/-- The characters of a lexeme. -/
def spelling : Lexeme → List Char
  | .bare text _ => text
  | .quoted text _ => '"' :: (text ++ ['"'])

/-- The token that a lexeme stands for. -/
def token : Lexeme → String
  | .bare text _ | .quoted text _ => String.ofList text

def isBare : Lexeme → Bool
  | .bare _ _ => true
  | .quoted _ _ => false

end Lexeme

/-- A lexeme with the blanks that follow it. -/
@[ext]
structure Spaced where
  lexeme : Lexeme
  gap : List Char
  blank : Text.AllBlank gap

/-- The characters of a lexeme and of the blanks that follow it. -/
def Spaced.spelling (s : Spaced) : List Char :=
  s.lexeme.spelling ++ s.gap

/-- Another lexeme may follow: after a bare word there is a blank. -/
def Spaced.Parted (s : Spaced) : Prop :=
  s.lexeme.isBare = true → s.gap ≠ []

/-- Another lexeme may follow wherever one does. -/
def Parted (row : List Spaced) : Prop :=
  ∀ s ∈ row.dropLast, s.Parted

instance : DecidablePred Spaced.Parted := fun s =>
  inferInstanceAs (Decidable (s.lexeme.isBare = true → s.gap ≠ []))

instance (row : List Spaced) : Decidable (Parted row) :=
  inferInstanceAs (Decidable (∀ s ∈ row.dropLast, s.Parted))

/-- A reading of a line: the blanks in front, and lexemes with the blanks after them. -/
structure Reading where
  margin : List Char
  row : List Spaced
  blank : Text.AllBlank margin
  parted : Parted row

namespace Reading

/-- The line that a reading reads. -/
def text (r : Reading) : List Char :=
  r.margin ++ r.row.flatMap Spaced.spelling

/-- The tokens of a reading. -/
def tokens (r : Reading) : List String :=
  r.row.map fun s => s.lexeme.token

/-- Another lexeme may follow: the line is blank, or it ends in a blank or a quoted run. -/
def Open (r : Reading) : Prop :=
  ∀ s ∈ r.row.getLast?, s.Parted

instance (r : Reading) : Decidable r.Open :=
  inferInstanceAs (Decidable (∀ s ∈ r.row.getLast?, s.Parted))

end Reading

/-- A line that is blank or a comment. -/
inductive Silent : List Char → Prop where
  | blank {line : List Char} (h : Text.AllBlank line) : Silent line
  | comment {margin : List Char} (h : Text.AllBlank margin) (rest : List Char) :
      Silent (margin ++ '#' :: rest)

/-! ### What the reader makes of a reading -/

/-- Blanks between lexemes are passed over. -/
theorem tokensFrom_blanks {cs : List Char} (h : Text.AllBlank cs) (column : Nat)
    (rest : List Char) :
    tokensFrom column .between (cs ++ rest) =
      tokensFrom (column + cs.length) .between rest := by
  induction cs generalizing column with
  | nil => rfl
  | cons c cs ih =>
      rw [List.cons_append, tokensFrom, if_pos (h c List.mem_cons_self),
        ih fun d hd => h d (List.mem_cons_of_mem c hd), List.length_cons, Nat.add_assoc,
        Nat.add_comm 1]

/-- A lexeme after which another may follow is a token, whatever follows. -/
theorem tokensFrom_spaced {s : Spaced} (h : s.Parted) (column : Nat) (rest : List Char) :
    tokensFrom column .between (s.spelling ++ rest) =
      (tokensFrom (column + s.spelling.length) .between rest).map (s.lexeme.token :: ·) := by
  obtain ⟨lexeme, gap, hgap⟩ := s
  cases lexeme with
  | quoted text htext =>
      have hspelling : '"' :: (text ++ ['"']) ++ gap ++ rest =
          '"' :: (text ++ '"' :: (gap ++ rest)) := by
        simp
      have hcolumn : column + ('"' :: (text ++ ['"']) ++ gap).length =
          column + 1 + text.length + 1 + gap.length := by
        simp only [List.length_append, List.length_cons, List.length_nil]
        omega
      simp only [Spaced.spelling, Lexeme.spelling, Lexeme.token]
      rw [hspelling, hcolumn, tokensFrom_quoted htext, tokensFrom_blanks hgap]
  | bare text hword =>
      obtain ⟨c, cs, rfl, hquote⟩ := hword.start
      obtain ⟨b, blanks, rfl⟩ := List.exists_cons_of_ne_nil (h rfl)
      have hspelling : c :: cs ++ b :: blanks ++ rest = c :: (cs ++ b :: (blanks ++ rest)) := by
        simp
      have hcolumn : column + (c :: cs ++ b :: blanks).length =
          column + 1 + cs.length + 1 + blanks.length := by
        simp only [List.length_append, List.length_cons]
        omega
      have hblanks : Text.AllBlank blanks := fun d hd => hgap d (List.mem_cons_of_mem b hd)
      simp only [Spaced.spelling, Lexeme.spelling, Lexeme.token]
      rw [hspelling, hcolumn, tokensFrom_word hquote hword.nonblank (hgap b List.mem_cons_self),
        tokensFrom_blanks hblanks]

/-- A lexeme at the end of a line is a token, also a bare word up to the very end. -/
theorem tokensFrom_last (s : Spaced) (column : Nat) :
    tokensFrom column .between s.spelling = .ok [s.lexeme.token] := by
  by_cases h : s.Parted
  · have hread := tokensFrom_spaced h column []
    rw [List.append_nil] at hread
    rw [hread]
    rfl
  · obtain ⟨lexeme, gap, hgap⟩ := s
    cases lexeme with
    | quoted text htext => exact absurd (fun hbare => by cases hbare) h
    | bare text hword =>
        obtain rfl : gap = [] := by
          by_contra hne
          exact h fun _ => hne
        obtain ⟨c, cs, rfl, hquote⟩ := hword.start
        have hread := tokensFrom_word_append
          (fun d hd => hword.nonblank d (List.mem_cons_of_mem c hd)) (column + 1) [c] []
        simp only [Spaced.spelling, Lexeme.spelling, Lexeme.token]
        rw [List.append_nil] at hread ⊢
        rw [tokensFrom, if_neg (by simp [hword.nonblank c List.mem_cons_self]), if_neg hquote, hread,
          tokensFrom, List.reverse_append, List.reverse_reverse]
        rfl

/-- A row of lexemes after which another may follow is a row of tokens, whatever follows. -/
theorem tokensFrom_row {row : List Spaced} (h : ∀ s ∈ row, s.Parted) (column : Nat)
    (rest : List Char) :
    tokensFrom column .between (row.flatMap Spaced.spelling ++ rest) =
      (tokensFrom (column + (row.flatMap Spaced.spelling).length) .between rest).map
        ((row.map fun s => s.lexeme.token) ++ ·) := by
  induction row generalizing column with
  | nil =>
      rw [List.flatMap_nil, List.nil_append, List.length_nil, Nat.add_zero]
      cases tokensFrom column .between rest <;> rfl
  | cons s row ih =>
      rw [List.flatMap_cons, List.append_assoc, tokensFrom_spaced (h s List.mem_cons_self),
        ih fun t ht => h t (List.mem_cons_of_mem s ht), List.length_append, Nat.add_assoc]
      cases tokensFrom _ .between rest <;> rfl

/-- A reading after which another lexeme may follow is read, whatever follows. -/
theorem tokensFrom_text_append {r : Reading} (h : r.Open) (column : Nat) (rest : List Char) :
    tokensFrom column .between (r.text ++ rest) =
      (tokensFrom (column + r.text.length) .between rest).map (r.tokens ++ ·) := by
  have hparted : ∀ s ∈ r.row, s.Parted := by
    intro s hs
    rcases List.eq_nil_or_concat' r.row with hrow | ⟨before, last, hrow⟩
    · exact absurd (hrow ▸ hs) List.not_mem_nil
    · have hbefore := r.parted
      rw [Parted, hrow, List.dropLast_concat] at hbefore
      rw [hrow] at hs
      rcases List.mem_append.mp hs with hs | hs
      · exact hbefore s hs
      · obtain rfl := List.mem_singleton.mp hs
        exact h s (by rw [hrow, List.getLast?_concat]; rfl)
  rw [Reading.text, List.append_assoc, tokensFrom_blanks r.blank, tokensFrom_row hparted,
    List.length_append, Nat.add_assoc]
  rfl

/-- **The tokens of a line that has a reading are those of the reading.** -/
theorem tokensFrom_text (r : Reading) (column : Nat) :
    tokensFrom column .between r.text = .ok r.tokens := by
  obtain ⟨margin, row, hmargin, hparted⟩ := r
  simp only [Reading.text, Reading.tokens]
  rw [tokensFrom_blanks hmargin]
  rcases List.eq_nil_or_concat' row with rfl | ⟨before, last, rfl⟩
  · rfl
  · rw [Parted, List.dropLast_concat] at hparted
    rw [List.flatMap_append, tokensFrom_row hparted, List.flatMap_singleton, tokensFrom_last,
      List.map_append]
    rfl

/-- A quoted run that never ends is reported where it was opened. -/
theorem tokensFrom_unterminated {rest : List Char} (h : '"' ∉ rest) (column : Nat) :
    tokensFrom column .between ('"' :: rest) = .error (.unterminatedQuote column) := by
  have hread := tokensFrom_quoted_append h (column + 1) column [] []
  rw [List.append_nil] at hread
  rw [tokensFrom, if_neg (by decide), if_pos rfl, hread, tokensFrom]

/-! ### Every text has a reading or stops short -/

/-- A text has a reading, or it stops short in a quoted run. -/
inductive Readable (cs : List Char) : Prop where
  | whole (r : Reading) (h : cs = r.text)
  | unterminated (r : Reading) (rest : List Char) (h : cs = r.text ++ '"' :: rest) (hopen : r.Open)
      (hrest : '"' ∉ rest)

namespace Reading

/-- The reading of an empty line. -/
def empty : Reading :=
  ⟨[], [], nofun, nofun⟩

/-- The reading of a single lexeme. -/
def single (lexeme : Lexeme) : Reading :=
  ⟨[], [⟨lexeme, [], nofun⟩], nofun, nofun⟩

/-- A reading with one more blank in front. -/
def indent (c : Char) (h : Text.isBlank c = true) (r : Reading) : Reading where
  margin := c :: r.margin
  row := r.row
  blank := List.forall_mem_cons.mpr ⟨h, r.blank⟩
  parted := r.parted

/-- A reading with one more lexeme in front. What stood in front of the reading parts the two. -/
def push (lexeme : Lexeme) (r : Reading) (h : lexeme.isBare = true → r.margin ≠ []) : Reading where
  margin := []
  row := ⟨lexeme, r.margin, r.blank⟩ :: r.row
  blank := nofun
  parted := by
    intro s hs
    rcases hrow : r.row with - | ⟨next, rest⟩
    · rw [hrow] at hs
      exact absurd hs List.not_mem_nil
    · have hparted := r.parted
      rw [Parted, hrow] at hparted
      rw [hrow, List.dropLast_cons_cons] at hs
      rcases List.mem_cons.mp hs with rfl | hs
      · exact h
      · exact hparted s hs

/-- The text of a reading with one more lexeme in front. -/
theorem text_push (lexeme : Lexeme) (r : Reading) (h : lexeme.isBare = true → r.margin ≠ []) :
    (r.push lexeme h).text = lexeme.spelling ++ r.text := by
  rw [text, push, List.nil_append, List.flatMap_cons, Spaced.spelling, List.append_assoc]
  rfl

/-- If another lexeme may follow a reading, it also may with one more lexeme in front. -/
theorem Open.push {r : Reading} (hopen : r.Open) (lexeme : Lexeme)
    (h : lexeme.isBare = true → r.margin ≠ []) : (r.push lexeme h).Open := by
  intro s hs
  change s ∈ (⟨lexeme, r.margin, r.blank⟩ :: r.row : List Spaced).getLast? at hs
  rcases hrow : r.row with - | ⟨next, rest⟩
  · rw [hrow] at hs
    obtain rfl := Option.some.inj hs
    exact h
  · rw [hrow, List.getLast?_cons_cons, ← hrow] at hs
    exact hopen s hs

end Reading

namespace Readable

/-- One more blank may stand in front. -/
theorem indent {cs : List Char} {c : Char} (hc : Text.isBlank c = true) (h : Readable cs) :
    Readable (c :: cs) := by
  rcases h with ⟨r, rfl⟩ | ⟨r, rest, rfl, hopen, hrest⟩
  · exact .whole (r.indent c hc) rfl
  · exact .unterminated (r.indent c hc) rest rfl hopen hrest

/-- A quoted run may stand in front. -/
theorem quote {cs text : List Char} (htext : '"' ∉ text) (h : Readable cs) :
    Readable ('"' :: (text ++ '"' :: cs)) := by
  have hparts (rest : List Char) : '"' :: (text ++ '"' :: rest) =
      (Lexeme.quoted text htext).spelling ++ rest := by
    simp [Lexeme.spelling]
  rcases h with ⟨r, rfl⟩ | ⟨r, rest, rfl, hopen, hrest⟩
  · refine .whole (r.push (.quoted text htext) nofun) ?_
    rw [Reading.text_push, hparts]
  · refine .unterminated (r.push (.quoted text htext) nofun) rest ?_ (hopen.push _ _) hrest
    rw [Reading.text_push, hparts, List.append_assoc]

/-- A bare word may stand in front if a blank follows it. -/
theorem word {cs text : List Char} {c : Char} (hword : IsWord text) (hc : Text.isBlank c = true)
    (h : Readable cs) : Readable (text ++ c :: cs) := by
  have hmargin (r : Reading) : (Lexeme.bare text hword).isBare = true →
      (r.indent c hc).margin ≠ [] := fun _ => List.cons_ne_nil c r.margin
  rcases h with ⟨r, rfl⟩ | ⟨r, rest, rfl, hopen, hrest⟩
  · refine .whole ((r.indent c hc).push (.bare text hword) (hmargin r)) ?_
    rw [Reading.text_push]
    rfl
  · have hindent : (r.indent c hc).Open := hopen
    refine .unterminated ((r.indent c hc).push (.bare text hword) (hmargin r)) rest ?_
      (hindent.push _ _) hrest
    rw [Reading.text_push, List.append_assoc]
    rfl

end Readable

/-- A character that is not blank goes on with a bare word. -/
theorem IsWord.concat {text : List Char} {c : Char} (h : IsWord text) (hc : Text.isBlank c = false) :
    IsWord (text ++ [c]) where
  nonblank d hd := by
    rcases List.mem_append.mp hd with hd | hd
    · exact h.nonblank d hd
    · rwa [List.mem_singleton.mp hd]
  start := by
    obtain ⟨d, rest, rfl, hquote⟩ := h.start
    exact ⟨d, rest ++ [c], rfl, hquote⟩

/-- **Every text has a reading or stops short in a quoted run.** The induction carries three facts: the
text may go on between lexemes, after the beginning of a bare word, or in a quoted run. -/
theorem readable (cs : List Char) : Readable cs := by
  suffices hcs : Readable cs ∧ (∀ text, IsWord text → Readable (text ++ cs)) ∧
      ∀ text, '"' ∉ text → Readable ('"' :: (text ++ cs)) from hcs.1
  induction cs with
  | nil =>
      refine ⟨.whole .empty rfl, fun text hword => ?_, fun text htext => ?_⟩
      · exact .whole (.single (.bare text hword)) (by simp [Reading.text, Reading.single,
          Spaced.spelling, Lexeme.spelling])
      · exact .unterminated .empty text (by rw [List.append_nil]; rfl) nofun htext
  | cons c cs ih =>
      obtain ⟨hbetween, hword, hquoted⟩ := ih
      refine ⟨?_, fun text htext => ?_, fun text htext => ?_⟩
      · by_cases hblank : Text.isBlank c = true
        · exact hbetween.indent hblank
        · by_cases hc : c = '"'
          · subst hc
            exact hquoted [] List.not_mem_nil
          · refine hword [c] ⟨?_, c, [], rfl, hc⟩
            intro d hd
            rw [List.mem_singleton.mp hd]
            exact Bool.eq_false_iff.mpr hblank
      · by_cases hblank : Text.isBlank c = true
        · exact hbetween.word htext hblank
        · have hlonger := hword (text ++ [c]) (htext.concat (Bool.eq_false_iff.mpr hblank))
          rwa [List.append_assoc] at hlonger
      · by_cases hc : c = '"'
        · subst hc
          exact hbetween.quote htext
        · have hmem : '"' ∉ text ++ [c] := by
            simp [htext, Ne.symm hc]
          have hlonger := hquoted (text ++ [c]) hmem
          rwa [List.append_assoc] at hlonger

/-! ### Readings are unique -/

/-- What follows a bare word begins with a blank, if anything follows. -/
def EndsWord (cs : List Char) : Prop :=
  cs.head?.any (fun c => !Text.isBlank c) = false

/-- A lexeme is recovered from its spelling, if a bare word ends where it should. -/
theorem Lexeme.spelling_append_cancel {l l' : Lexeme} {rest rest' : List Char}
    (hrest : l.isBare = true → EndsWord rest) (hrest' : l'.isBare = true → EndsWord rest')
    (h : l.spelling ++ rest = l'.spelling ++ rest') : l = l' ∧ rest = rest' := by
  cases l with
  | bare text hword =>
      cases l' with
      | bare text' hword' =>
          obtain ⟨rfl, hrests⟩ := append_cancel_of_boundary (fun c => !Text.isBlank c)
            (fun c hc => by simp [hword.nonblank c hc]) (fun c hc => by simp [hword'.nonblank c hc])
            (hrest rfl) (hrest' rfl) h
          exact ⟨rfl, hrests⟩
      | quoted text' htext' =>
          obtain ⟨c, others, rfl, hquote⟩ := hword.start
          exact absurd (List.cons.inj h).1 hquote
  | quoted text htext =>
      cases l' with
      | bare text' hword' =>
          obtain ⟨c, others, rfl, hquote⟩ := hword'.start
          exact absurd (List.cons.inj h).1.symm hquote
      | quoted text' htext' =>
          simp only [spelling, List.cons_append, List.append_assoc, List.nil_append,
            List.cons.injEq, true_and] at h
          obtain ⟨rfl, hrests⟩ := append_cancel_of_not_mem htext htext' h
          exact ⟨rfl, hrests⟩

/-- The first character of a lexeme is not blank. -/
theorem Lexeme.spelling_start (l : Lexeme) :
    ∃ c rest, l.spelling = c :: rest ∧ Text.isBlank c = false := by
  cases l with
  | bare text hword =>
      obtain ⟨c, rest, rfl, -⟩ := hword.start
      exact ⟨c, rest, rfl, hword.nonblank c List.mem_cons_self⟩
  | quoted text htext => exact ⟨'"', text ++ ['"'], rfl, by decide⟩

/-- No blank stands in front of a row of lexemes. -/
theorem head?_row (row : List Spaced) :
    (row.flatMap Spaced.spelling).head?.any Text.isBlank = false := by
  rcases row with - | ⟨s, row⟩
  · rfl
  · obtain ⟨c, rest, hspelling, hc⟩ := s.lexeme.spelling_start
    rw [List.flatMap_cons, Spaced.spelling, hspelling]
    exact hc

/-- In a row, a bare word ends where a blank follows or the row ends. -/
theorem Parted.endsWord {s : Spaced} {row : List Spaced} (h : Parted (s :: row))
    (hbare : s.lexeme.isBare = true) : EndsWord (s.gap ++ row.flatMap Spaced.spelling) := by
  rcases hgap : s.gap with - | ⟨c, blanks⟩
  · rcases row with - | ⟨next, row⟩
    · rfl
    · exact absurd hgap (h s List.mem_cons_self hbare)
  · have hc := s.blank c (hgap ▸ List.mem_cons_self)
    simp [EndsWord, hc]

/-- A row stays parted without its first lexeme. -/
theorem Parted.tail {s : Spaced} {row : List Spaced} (h : Parted (s :: row)) : Parted row := by
  rcases row with - | ⟨next, row⟩
  · nofun
  · exact fun t ht => h t (List.mem_cons_of_mem s ht)

/-- A row of lexemes is recovered from its spelling. -/
theorem flatMap_spaced_cancel {row row' : List Spaced} (h : Parted row) (h' : Parted row')
    (heq : row.flatMap Spaced.spelling = row'.flatMap Spaced.spelling) : row = row' := by
  have hne (s : Spaced) (others : List Spaced) :
      (s :: others).flatMap Spaced.spelling ≠ [] := by
    obtain ⟨c, rest, hspelling, -⟩ := s.lexeme.spelling_start
    simp [Spaced.spelling, hspelling]
  induction row generalizing row' with
  | nil =>
      cases row' with
      | nil => rfl
      | cons s' row' => exact absurd heq.symm (hne s' row')
  | cons s row ih =>
      cases row' with
      | nil => exact absurd heq (hne s row)
      | cons s' row' =>
          simp only [List.flatMap_cons, Spaced.spelling, List.append_assoc] at heq
          obtain ⟨hlexeme, hrests⟩ := Lexeme.spelling_append_cancel h.endsWord h'.endsWord heq
          obtain ⟨hgap, hrows⟩ := append_cancel_of_boundary Text.isBlank s.blank s'.blank
            (head?_row row) (head?_row row') hrests
          rw [Spaced.ext hlexeme hgap, ih h.tail h'.tail hrows]

/-- **No text has two readings.** -/
theorem Reading.text_injective : Function.Injective Reading.text := by
  rintro ⟨margin, row, hmargin, hparted⟩ ⟨margin', row', hmargin', hparted'⟩ h
  obtain ⟨rfl, hrows⟩ := append_cancel_of_boundary Text.isBlank hmargin hmargin' (head?_row row)
    (head?_row row') h
  obtain rfl := flatMap_spaced_cancel hparted hparted' hrows
  rfl

/-! ### Blank lines and comments -/

/-- The reader takes exactly blank lines and comments for silent. -/
theorem isSilent_iff {line : List Char} : isSilent line = true ↔ Silent line := by
  constructor
  · intro h
    have hline := List.takeWhile_append_dropWhile (p := Text.isBlank) (l := line)
    have hmargin : Text.AllBlank (line.takeWhile Text.isBlank) :=
      fun c hc => List.mem_takeWhile_imp hc
    rw [isSilent, Text.trimStart] at h
    split at h
    next hrest =>
      rw [hrest, List.append_nil] at hline
      exact .blank (hline ▸ hmargin)
    next c rest hrest =>
      rw [beq_iff_eq.mp h] at hrest
      rw [← hline, hrest]
      exact .comment hmargin rest
  · rintro (hblank | ⟨hmargin, rest⟩)
    · rw [isSilent, Text.trimStart, List.dropWhile_eq_nil_iff.mpr hblank]
    · rw [isSilent, Text.trimStart, List.dropWhile_append_of_pos hmargin]
      rfl

/-! ### The main result -/

/-- **The reader of lines follows the grammar.** For every line:

* A line that is blank or a comment has no tokens.
* Any other line has tokens exactly if it has a reading, and then they are those of the reading, of
  which there is at least one. It is refused exactly if it is a reading after which another lexeme
  may follow, and then a double quote after which no other stands; the error names the column of
  that quote.
* No line has two readings.
* Only a line that the reader takes for silent has no tokens. -/
theorem tokens_follow_grammar (line : String) :
    (Silent line.toList → tokens line = .ok []) ∧
    (¬Silent line.toList →
      (∀ ts, tokens line = .ok ts ↔ ∃ r : Reading, line.toList = r.text ∧ r.tokens = ts) ∧
      tokens line ≠ .ok [] ∧
      ∀ error, tokens line = .error error ↔ ∃ (r : Reading) (rest : List Char),
        line.toList = r.text ++ '"' :: rest ∧ r.Open ∧ '"' ∉ rest ∧
          error = .unterminatedQuote (r.text.length + 1)) ∧
    (∀ r r' : Reading, line.toList = r.text → line.toList = r'.text → r = r') ∧
    (tokens line = .ok [] ↔ isSilent line.toList = true) := by
  refine ⟨?_, ?_, ?_, tokens_eq_nil_iff line⟩
  · exact fun h => (tokens_eq_nil_iff line).mpr (isSilent_iff.mpr h)
  · intro h
    have hspeaks := Bool.eq_false_iff.mpr fun hsilent => h (isSilent_iff.mp hsilent)
    have htokens : tokens line = tokensFrom 1 .between line.toList := by
      rw [tokens, hspeaks]
      rfl
    have hwhole {r : Reading} (hr : line.toList = r.text) : tokens line = .ok r.tokens := by
      rw [htokens, hr, tokensFrom_text]
    have hshort {r : Reading} {rest : List Char} (hr : line.toList = r.text ++ '"' :: rest)
        (hopen : r.Open) (hrest : '"' ∉ rest) :
        tokens line = .error (.unterminatedQuote (r.text.length + 1)) := by
      rw [htokens, hr, tokensFrom_text_append hopen, tokensFrom_unterminated hrest, Nat.add_comm]
      rfl
    refine ⟨fun ts => ⟨fun hts => ?_, ?_⟩, ?_, fun error => ⟨fun herror => ?_, ?_⟩⟩
    · rcases readable line.toList with ⟨r, hr⟩ | ⟨r, rest, hr, hopen, hrest⟩
      · exact ⟨r, hr, Except.ok.inj ((hwhole hr).symm.trans hts)⟩
      · exact absurd (hts.symm.trans (hshort hr hopen hrest)) (by simp)
    · rintro ⟨r, hr, rfl⟩
      exact hwhole hr
    · exact fun hnil => h (isSilent_iff.mp ((tokens_eq_nil_iff line).mp hnil))
    · rcases readable line.toList with ⟨r, hr⟩ | ⟨r, rest, hr, hopen, hrest⟩
      · exact absurd (herror.symm.trans (hwhole hr)) (by simp)
      · have hcolumn := Except.error.inj ((hshort hr hopen hrest).symm.trans herror)
        exact ⟨r, rest, hr, hopen, hrest, hcolumn.symm⟩
    · rintro ⟨r, rest, hr, hopen, hrest, rfl⟩
      exact hshort hr hopen hrest
  · exact fun r r' hr hr' => Reading.text_injective (hr.symm.trans hr')

/-- A comment with a quote in it; a line in which a bare word with a quote in it follows a quoted run
without a blank between; and a line that stops short after an empty quoted run. -/
theorem tokens_follow_grammar_quotes :
    let comment := "\u3000# \""
    let whole := " \"a b\"c\"d \"\""
    let short := "x \"\"\"y z"
    let reading : Reading :=
      { margin := [' ']
        row := [⟨.quoted ['a', ' ', 'b'] (by decide), [], nofun⟩,
          ⟨.bare ['c', '"', 'd'] (by decide), [' '], by decide⟩,
          ⟨.quoted [] nofun, [], nofun⟩]
        blank := by decide
        parted := by decide }
    (Silent comment.toList ∧ tokens comment = .ok []) ∧
    (¬Silent whole.toList ∧ whole.toList = reading.text ∧
      tokens whole = .ok ["a b", "c\"d", ""] ∧ ∀ r : Reading, whole.toList = r.text → r = reading) ∧
    (¬Silent short.toList ∧ tokens short = .error (.unterminatedQuote 5)) := by
  intro comment whole short reading
  have hcomment : Silent comment.toList := isSilent_iff.mp (by decide)
  have hwhole : ¬Silent whole.toList := fun h => absurd (isSilent_iff.mpr h) (by decide)
  have hshort : ¬Silent short.toList := fun h => absurd (isSilent_iff.mpr h) (by decide)
  have hreading : whole.toList = reading.text := by decide
  let front : Reading :=
    { margin := []
      row := [⟨.bare ['x'] (by decide), [' '], by decide⟩,
        ⟨.quoted [] nofun, [], nofun⟩]
      blank := nofun
      parted := by decide }
  have hfront : short.toList = front.text ++ '"' :: ['y', ' ', 'z'] := by decide
  obtain ⟨hnone, -, -, -⟩ := tokens_follow_grammar comment
  obtain ⟨-, hread, hunique, -⟩ := tokens_follow_grammar whole
  obtain ⟨-, hrefused, -, -⟩ := tokens_follow_grammar short
  obtain ⟨htokens, -, -⟩ := hread hwhole
  obtain ⟨-, -, herror⟩ := hrefused hshort
  refine ⟨⟨hcomment, hnone hcomment⟩,
    ⟨hwhole, hreading, (htokens _).mpr ⟨reading, hreading, by decide⟩, ?_⟩,
    hshort, (herror _).mpr ⟨front, _, hfront, by decide, by decide, by decide⟩⟩
  intro r hr
  exact hunique r reading hr hreading

end Phrasebook.Line
