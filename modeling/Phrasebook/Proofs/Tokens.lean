import Mathlib.Data.List.TakeWhile
import Phrasebook.Line.Token

/-!
# Tokens of a line

How the reader of a line passes over a whole bare word or a whole quoted run. The text of the
token is arbitrary, so that lines with any names in them can be read.

## Main results

* `tokensFrom_word`: a word that a blank ends is a token.
* `tokensFrom_quoted`: a quoted run is a token, whatever stands in it.
* `tokens_eq_nil_iff`: only blank lines and comments have no tokens.
-/

namespace Phrasebook.Line

/-- A line whose first character is neither blank nor `#` is read. -/
theorem tokens_of_toList {line : String} {c : Char} {cs : List Char} (hline : line.toList = c :: cs)
    (hblank : Text.isBlank c = false) (hcomment : c ≠ '#') :
    tokens line = tokensFrom 1 .between (c :: cs) := by
  have hsilent : isSilent (c :: cs) = false := by
    rw [isSilent, Text.trimStart, List.dropWhile_cons_of_neg (by simp [hblank])]
    exact beq_eq_false_iff_ne.mpr hcomment
  rw [tokens, hline, hsilent]
  rfl

/-- What a bare word goes on with is added to it. -/
theorem tokensFrom_word_append {cs : List Char} (h : ∀ c ∈ cs, Text.isBlank c = false)
    (column : Nat) (text rest : List Char) :
    tokensFrom column (.word text) (cs ++ rest) =
      tokensFrom (column + cs.length) (.word (cs.reverse ++ text)) rest := by
  induction cs generalizing column text with
  | nil => rfl
  | cons c cs ih =>
      rw [List.cons_append, tokensFrom, if_neg (by simp [h c List.mem_cons_self]),
        ih fun d hd => h d (List.mem_cons_of_mem c hd), List.reverse_cons, List.append_assoc,
        List.singleton_append, List.length_cons, Nat.add_assoc, Nat.add_comm 1]

/-- A bare word is a token once a blank follows it. -/
theorem tokensFrom_word {c b : Char} {cs : List Char} (hquote : c ≠ '"')
    (h : ∀ d ∈ c :: cs, Text.isBlank d = false) (hb : Text.isBlank b = true) (column : Nat)
    (rest : List Char) :
    tokensFrom column .between (c :: (cs ++ b :: rest)) =
      (tokensFrom (column + 1 + cs.length + 1) .between rest).map
        (String.ofList (c :: cs) :: ·) := by
  rw [tokensFrom, if_neg (by simp [h c List.mem_cons_self]), if_neg hquote,
    tokensFrom_word_append fun d hd => h d (List.mem_cons_of_mem c hd), tokensFrom, if_pos hb,
    List.reverse_append, List.reverse_reverse]
  rfl

/-- What a quoted run goes on with is added to it. -/
theorem tokensFrom_quoted_append {cs : List Char} (h : '"' ∉ cs) (column opened : Nat)
    (text rest : List Char) :
    tokensFrom column (.quoted opened text) (cs ++ rest) =
      tokensFrom (column + cs.length) (.quoted opened (cs.reverse ++ text)) rest := by
  induction cs generalizing column text with
  | nil => rfl
  | cons c cs ih =>
      rw [List.mem_cons, not_or] at h
      rw [List.cons_append, tokensFrom, if_neg (Ne.symm h.1), ih h.2, List.reverse_cons,
        List.append_assoc, List.singleton_append, List.length_cons, Nat.add_assoc, Nat.add_comm 1]

/-- A quoted run is a token. -/
theorem tokensFrom_quoted {cs : List Char} (h : '"' ∉ cs) (column : Nat) (rest : List Char) :
    tokensFrom column .between ('"' :: (cs ++ '"' :: rest)) =
      (tokensFrom (column + 1 + cs.length + 1) .between rest).map (String.ofList cs :: ·) := by
  rw [tokensFrom, if_neg (by decide), if_pos rfl, tokensFrom_quoted_append h, tokensFrom,
    if_pos rfl, List.append_nil, List.reverse_reverse]

/-! ### Lines without tokens -/

/-- A row of tokens that goes on after a first one is not empty. -/
theorem map_cons_ne_nil (token : String) (rest : Except Malformed (List String)) :
    rest.map (token :: ·) ≠ .ok [] := by
  cases rest <;> simp [Except.map]

/-- What has no tokens is blank, and is read from between two tokens. -/
theorem blank_of_tokensFrom {column : Nat} {position : Position} {cs : List Char}
    (h : tokensFrom column position cs = .ok []) :
    position = .between ∧ ∀ c ∈ cs, Text.isBlank c = true := by
  induction cs generalizing column position with
  | nil =>
      cases position with
      | between => exact ⟨rfl, nofun⟩
      | word text => exact absurd h (by simp [tokensFrom])
      | quoted opened text => exact absurd h (by simp [tokensFrom])
  | cons c cs ih =>
      cases position with
      | between =>
          rw [tokensFrom] at h
          split at h
          next hblank =>
            refine ⟨rfl, ?_⟩
            rintro d (- | ⟨-, hd⟩)
            · exact hblank
            · exact (ih h).2 d hd
          next => split at h <;> exact absurd (ih h).1 (by simp)
      | word text =>
          rw [tokensFrom] at h
          split at h
          · exact absurd h (map_cons_ne_nil _ _)
          · exact absurd (ih h).1 (by simp)
      | quoted opened text =>
          rw [tokensFrom] at h
          split at h
          · exact absurd h (map_cons_ne_nil _ _)
          · exact absurd (ih h).1 (by simp)

/-- **Only blank lines and comments have no tokens.** -/
theorem tokens_eq_nil_iff (line : String) :
    tokens line = .ok [] ↔ isSilent line.toList = true := by
  rw [tokens]
  constructor
  · intro h
    split at h
    next hsilent => exact hsilent
    next =>
      rw [isSilent, Text.trimStart, List.dropWhile_eq_nil_iff.mpr (blank_of_tokensFrom h).2]
  · intro h
    rw [if_pos h]

end Phrasebook.Line
