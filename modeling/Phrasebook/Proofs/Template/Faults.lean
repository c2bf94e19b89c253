import Mathlib.Data.List.Basic
import Phrasebook.Proofs.Template.Grammar

/-!
# Where a template is refused

Elements can be taken off the front of any text, one after the other, until the text comes to its
end or no element can begin. In the second case there is an *offence*: a single brace that closes
nothing, one that opens a placeholder which is never closed, or a placeholder whose name is no
index. An offence is said here on the text from its brace on (`Offends`).

The reader names the first offence. What stands before it is a template of its own, so that the
column of the error is told by how many characters have been accepted; and an offence has only one
fault, so that the fault is told by the text.

## Main results

* `scanned`: every text is spelled by elements, up to its end or up to an offence.
* `read_eq_error_of_offends`, `exists_offence_of_read`: the reader refuses a text at its offence.
* `Fault.reason_injective`: the wording of a fault tells it from any other.
* `read_refuses_first_offence`: an error names the first offence and its fault.
-/

namespace Phrasebook.Template

/-! ### Offences -/

/-- A text that no element can begin, and why. -/
inductive Offends : List Char → Fault → Prop where
  /-- A single brace opens a placeholder, and none closes it. -/
  | neverClosed {rest : List Char} (hsingle : rest.head? ≠ some '{') (hopen : '}' ∉ rest) :
      Offends ('{' :: rest) .neverClosed
  /-- A single brace closes nothing. -/
  | loneClosingBrace {rest : List Char} (hsingle : rest.head? ≠ some '}') :
      Offends ('}' :: rest) .loneClosingBrace
  /-- A placeholder that ends at the next closing brace has a name that is no index. -/
  | noIndex {field name rest : List Char} {fault : Fault} (hsingle : field.head? ≠ some '{')
      (hclosed : '}' ∉ field) (hname : HasName field name) (hnone : NoIndex name fault) :
      Offends ('{' :: (field ++ '}' :: rest)) fault

/-- An offence is refused where it stands. -/
theorem Offends.readFrom_eq {cs : List Char} {fault : Fault} (h : Offends cs fault) (column : Nat)
    (literal : List Char) : readFrom column literal none cs = .error ⟨column, fault⟩ := by
  cases h with
  | neverClosed hsingle hopen =>
      have hfield := readFrom_field hopen (column + 1) literal ⟨column, []⟩ []
      rw [List.append_nil] at hfield
      rw [readFrom_open hsingle, hfield, readFrom]
  | loneClosingBrace hsingle =>
      rw [readFrom]
      · rfl
      · rintro ds hc
        exact absurd hc (by decide)
      · rintro ds - rfl
        exact hsingle rfl
  | noIndex hsingle hclosed hname hnone =>
      rw [readFrom_placeholder hclosed hsingle, fieldIndex_eq_error_iff.mpr ⟨_, hname, hnone⟩]

/-- A text offends in one way only. -/
theorem Offends.fault_unique {cs : List Char} {fault fault' : Fault} (h : Offends cs fault)
    (h' : Offends cs fault') : fault = fault' := by
  have hrefused := (h.readFrom_eq 1 []).symm.trans (h'.readFrom_eq 1 [])
  exact congrArg Refusal.fault (Except.error.inj hrefused)

/-- An offence begins with a brace. -/
theorem Offends.head {cs : List Char} {fault : Fault} (h : Offends cs fault) :
    ∃ c rest, cs = c :: rest ∧ (c = '{' ∨ c = '}') := by
  cases h with
  | neverClosed => exact ⟨_, _, rfl, .inl rfl⟩
  | loneClosingBrace => exact ⟨_, _, rfl, .inr rfl⟩
  | noIndex => exact ⟨_, _, rfl, .inl rfl⟩

/-! ### Elements in front -/

/-- Elements are spelled up to the end of the text, or up to an offence. -/
inductive Scanned (cs : List Char) : Prop where
  | whole (elements : List Element) (h : cs = elements.flatMap Element.spelling)
  | offends (elements : List Element) (rest : List Char) (fault : Fault)
      (h : cs = elements.flatMap Element.spelling ++ rest) (hrest : Offends rest fault)

/-- An element may stand in front. -/
theorem Scanned.push {cs : List Char} (e : Element) (h : Scanned cs) :
    Scanned (e.spelling ++ cs) := by
  rcases h with ⟨elements, rfl⟩ | ⟨elements, rest, fault, rfl, hrest⟩
  · exact .whole (e :: elements) List.flatMap_cons.symm
  · exact .offends (e :: elements) rest fault (by simp) hrest

section

variable {cs : List Char}

/-- What begins with an opening brace is an element in front of a shorter text, or an offence. -/
theorem scanned_openingBrace (ih : ∀ rest : List Char, rest.length < cs.length → Scanned rest) :
    Scanned ('{' :: cs) := by
  by_cases hdouble : cs.head? = some '{'
  · obtain ⟨rest, rfl⟩ := List.head?_eq_some_iff.mp hdouble
    exact (ih rest (by simp)).push (.glyph .openingBrace)
  · by_cases hopen : '}' ∈ cs
    · obtain ⟨field, rest, rfl, hclosed⟩ := List.eq_append_cons_of_mem hopen
      have hsingle : field.head? ≠ some '{' := by
        rcases field with - | ⟨c, field⟩
        · simp
        · exact hdouble
      cases hindex : fieldIndex field with
      | error fault =>
          obtain ⟨name, hname, hnone⟩ := fieldIndex_eq_error_iff.mp hindex
          exact .offends [] _ fault rfl (.noIndex hsingle hclosed hname hnone)
      | ok index =>
          have hrest := ih rest (by simp; omega)
          have hpushed := hrest.push
            (.placeholder ⟨field, index, hclosed, fieldIndex_eq_ok_iff.mp hindex⟩)
          simpa [Element.spelling, Placeholder.spelling] using hpushed
    · exact .offends [] _ .neverClosed rfl (.neverClosed hdouble hopen)

/-- What begins with a closing brace is an element in front of a shorter text, or an offence. -/
theorem scanned_closingBrace (ih : ∀ rest : List Char, rest.length < cs.length → Scanned rest) :
    Scanned ('}' :: cs) := by
  by_cases hdouble : cs.head? = some '}'
  · obtain ⟨rest, rfl⟩ := List.head?_eq_some_iff.mp hdouble
    exact (ih rest (by simp)).push (.glyph .closingBrace)
  · exact .offends [] _ .loneClosingBrace rfl (.loneClosingBrace hdouble)

end

/-- **Every text is spelled by elements**, up to its end or up to an offence. The induction is on the
length, because a placeholder is passed over at once. -/
theorem scanned (cs : List Char) : Scanned cs := by
  induction hlength : cs.length using Nat.strong_induction_on generalizing cs with
  | h n ih =>
      subst hlength
      rcases cs with - | ⟨c, cs⟩
      · exact .whole [] rfl
      · have hshorter (rest : List Char) (hrest : rest.length < cs.length) : Scanned rest :=
          ih rest.length (by simp; omega) rest rfl
        by_cases hopening : c = '{'
        · exact hopening ▸ scanned_openingBrace hshorter
        · by_cases hclosing : c = '}'
          · exact hclosing ▸ scanned_closingBrace hshorter
          · exact (ih cs.length (by simp) cs rfl).push (.glyph (.plain c hopening hclosing))

/-- What is refused after elements is refused with them in front. -/
theorem readFrom_elements {elements : List Element} {rest : List Char} {refusal : Refusal}
    (column : Nat) (literal : List Char)
    (h : ∀ literal,
      readFrom (column + (elements.flatMap Element.spelling).length) literal none rest =
        .error refusal) :
    readFrom column literal none (elements.flatMap Element.spelling ++ rest) = .error refusal := by
  induction elements generalizing column literal with
  | nil => exact h literal
  | cons e elements ih =>
      have hrest (column' : Nat) (literal' : List Char)
          (hcolumn : column' = column + e.spelling.length) :
          readFrom column' literal' none (elements.flatMap Element.spelling ++ rest) =
            .error refusal := by
        refine ih column' literal' fun literal => ?_
        rw [hcolumn, Nat.add_assoc, ← List.length_append, ← List.flatMap_cons]
        exact h literal
      rw [List.flatMap_cons, List.append_assoc]
      cases e with
      | glyph g =>
          rw [Element.spelling, readFrom_glyph]
          exact hrest _ _ rfl
      | placeholder p =>
          have hspelling : p.spelling ++ (elements.flatMap Element.spelling ++ rest) =
              '{' :: (p.inside ++ '}' :: (elements.flatMap Element.spelling ++ rest)) := by
            simp [Placeholder.spelling]
          have hcolumn : column + 1 + p.inside.length + 1 = column + p.spelling.length := by
            simp [Placeholder.spelling]
            omega
          rw [Element.spelling, hspelling, readFrom_placeholder p.closed p.spells.head?_ne_brace,
            fieldIndex_eq_ok_iff.mpr p.spells]
          dsimp only
          rw [hrest _ [] hcolumn]

/-! ### Refusals -/

/-- **A text is refused at the offence** that follows a template. -/
theorem read_eq_error_of_offends {before rest : List Char} {segments : List Segment} {fault : Fault}
    (hbefore : read (String.ofList before) = .ok segments) (h : Offends rest fault) :
    read (String.ofList (before ++ rest)) = .error ⟨before.length + 1, fault⟩ := by
  obtain ⟨elements, helements⟩ := exists_spell_of_read hbefore
  obtain rfl := String.ofList_injective helements
  rw [read, String.toList_ofList, Nat.add_comm]
  exact readFrom_elements 1 [] fun literal => h.readFrom_eq _ literal

/-- **A text that is refused has an offence** after a template, and its error names it. -/
theorem exists_offence_of_read {source : String} {column : Nat} {fault : Fault}
    (h : read source = .error ⟨column, fault⟩) :
    ∃ before rest segments, source.toList = before ++ rest ∧ column = before.length + 1 ∧
      read (String.ofList before) = .ok segments ∧ Offends rest fault := by
  rcases scanned source.toList with ⟨elements, hsource⟩ | ⟨elements, rest, other, hsource, hrest⟩
  · have hspell : spell elements = source := by
      rw [spell, ← hsource, String.ofList_toList]
    rw [← hspell, read_spell] at h
    cases h
  · have hrefused := read_eq_error_of_offends (read_spell elements) hrest
    rw [← hsource, String.ofList_toList, h] at hrefused
    obtain ⟨rfl, rfl⟩ := Refusal.mk.inj (Except.error.inj hrefused)
    exact ⟨_, rest, _, hsource, rfl, read_spell elements, hrest⟩

/-! ### Wordings -/

namespace Fault

/-- The character with which the wording of a fault ends. -/
def ending : Fault → Char
  | .neverClosed => 'd'
  | .loneClosingBrace => 'e'
  | .missingIndex => '}'
  | .notNumeric _ => 'x'
  | .outOfRange _ => ')'

/-- The wording of a placeholder that is not numeric has its name between fixed texts. -/
theorem toList_reason_notNumeric (name : String) :
    (notNumeric name).reason.toList =
      "placeholder '".toList ++ (name.toList ++ "' is not a numeric index".toList) := by
  simp only [← String.toList_append, ← String.append_assoc]
  rfl

/-- The wording of an index out of range has its digits between fixed texts. -/
theorem toList_reason_outOfRange (digits : String) :
    (outOfRange digits).reason.toList = "placeholder index ".toList ++ (digits.toList ++
      (" is out of range (at most ".toList ++ ((toString indexBound).toList ++
        " parameters)".toList))) := by
  simp only [← String.toList_append, ← String.append_assoc]
  rfl

/-- Faults of different kinds have wordings that end differently. -/
theorem getLast?_reason (fault : Fault) : fault.reason.toList.getLast? = some fault.ending := by
  cases fault with
  | neverClosed | loneClosingBrace | missingIndex => decide +kernel
  | notNumeric name =>
      rw [toList_reason_notNumeric, List.getLast?_append_of_ne_nil _ (by simp),
        List.getLast?_append_of_ne_nil _ (by simp), ending]
      decide +kernel
  | outOfRange digits =>
      rw [toList_reason_outOfRange, List.getLast?_append_of_ne_nil _ (by simp),
        List.getLast?_append_of_ne_nil _ (by simp), ending]
      decide +kernel

/-- **The wording of a fault tells it from any other**, with the name that it quotes. -/
theorem reason_injective : Function.Injective reason := by
  intro fault fault' h
  have htext := congrArg String.toList h
  have hending : fault.ending = fault'.ending := by
    have hlast := congrArg List.getLast? htext
    rw [getLast?_reason, getLast?_reason] at hlast
    exact Option.some.inj hlast
  cases fault <;> cases fault' <;> simp only [ending, Char.reduceEq] at hending
  case neverClosed.neverClosed => rfl
  case loneClosingBrace.loneClosingBrace => rfl
  case missingIndex.missingIndex => rfl
  case notNumeric.notNumeric name name' =>
    rw [toList_reason_notNumeric, toList_reason_notNumeric] at htext
    have hname := List.append_cancel_right (List.append_cancel_left htext)
    rw [String.toList_inj.mp hname]
  case outOfRange.outOfRange digits digits' =>
    rw [toList_reason_outOfRange, toList_reason_outOfRange] at htext
    have hdigits := List.append_cancel_right (List.append_cancel_left htext)
    rw [String.toList_inj.mp hdigits]

end Fault

/-! ### The main result -/

/-- **An error names the first offence and its fault.** For every text, column and fault:

* The text is refused with this column and this fault exactly if the characters before the column
  are a template, and the text from the column on offends in this way, and in no other.
* The column is then one of the text, and a brace stands there.
* The fault is told by the wording of the error. -/
theorem read_refuses_first_offence (source : String) (column : Nat) (fault : Fault) :
    (read source = .error ⟨column, fault⟩ ↔
      ∃ before rest, source.toList = before ++ rest ∧ column = before.length + 1 ∧
        (∃ segments, read (String.ofList before) = .ok segments) ∧
        Offends rest fault ∧ ∀ other, Offends rest other → other = fault) ∧
    (read source = .error ⟨column, fault⟩ →
      1 ≤ column ∧ column ≤ source.length ∧
        (source.toList[column - 1]? = some '{' ∨ source.toList[column - 1]? = some '}')) ∧
    ∀ other : Fault, other.reason = fault.reason → other = fault := by
  refine ⟨⟨?_, ?_⟩, ?_, fun other h => Fault.reason_injective h⟩
  · intro h
    obtain ⟨before, rest, segments, hsource, hcolumn, hbefore, hrest⟩ := exists_offence_of_read h
    exact ⟨before, rest, hsource, hcolumn, ⟨segments, hbefore⟩, hrest,
      fun other hother => hother.fault_unique hrest⟩
  · rintro ⟨before, rest, hsource, rfl, ⟨segments, hbefore⟩, hrest, -⟩
    have hread := read_eq_error_of_offends hbefore hrest
    rwa [← hsource, String.ofList_toList] at hread
  · intro h
    obtain ⟨before, rest, segments, hsource, rfl, -, hrest⟩ := exists_offence_of_read h
    obtain ⟨c, cs, rfl, hc⟩ := hrest.head
    have hlength : source.length = before.length + (cs.length + 1) := by
      rw [← String.length_toList, hsource, List.length_append, List.length_cons]
    have hchar : source.toList[before.length + 1 - 1]? = some c := by
      simp [hsource]
    rw [hchar]
    refine ⟨by omega, by omega, ?_⟩
    rcases hc with rfl | rfl
    · exact .inl rfl
    · exact .inr rfl

/-- After a character of two bytes and a doubled brace, an index of more than 64 bits with blanks
around it, zeros in front of it and a format after it; and a closing brace after two that are
doubled. -/
theorem read_refuses_first_offence_after_doubled_braces :
    let large := "é\x7b\x7b\x7b 0018446744073709551616 :\x7b\x7d\x7d"
    let lone := "\x7d\x7d\x7d"
    (Offends (large.toList.drop 3) (.outOfRange "0018446744073709551616") ∧
      read large = .error ⟨4, .outOfRange "0018446744073709551616"⟩ ∧
      4 ≤ large.length ∧ (large.toList[3]? = some '{' ∨ large.toList[3]? = some '}')) ∧
    read lone = .error ⟨3, .loneClosingBrace⟩ ∧
      ∃ before rest, lone.toList = before ++ rest ∧ 3 = before.length + 1 ∧
        (∃ segments, read (String.ofList before) = .ok segments) ∧
        Offends rest .loneClosingBrace ∧
        ∀ other, Offends rest other → other = .loneClosingBrace := by
  intro large lone
  have hdigits : ∀ c ∈ "0018446744073709551616".toList, isDigit c = true :=
    List.all_eq_true.mp (by decide +kernel)
  have hname : HasName ([' '] ++ "0018446744073709551616".toList ++ [' '] ++ [':', '{'])
      "0018446744073709551616".toList :=
    hasName_digits (by decide) hdigits (by decide) (.inr (.inl rfl))
  have hnone : NoIndex "0018446744073709551616".toList (.outOfRange "0018446744073709551616") := by
    rw [← String.ofList_toList (s := "0018446744073709551616"), String.toList_ofList]
    exact .outOfRange (by decide +kernel) hdigits (by decide +kernel)
  have hoffends : Offends (large.toList.drop 3) (.outOfRange "0018446744073709551616") := by
    have hrest : large.toList.drop 3 = '{' ::
        ([' '] ++ "0018446744073709551616".toList ++ [' '] ++ [':', '{'] ++ '}' :: ['}']) := by
      decide +kernel
    rw [hrest]
    exact .noIndex (by decide) (by decide +kernel) hname hnone
  have hlarge : read large = .error ⟨4, .outOfRange "0018446744073709551616"⟩ :=
    (read_refuses_first_offence _ _ _).1.mpr
      ⟨large.toList.take 3, large.toList.drop 3, (List.take_append_drop 3 _).symm,
        by decide +kernel, ⟨[⟨"é\x7b", none⟩], by decide +kernel⟩, hoffends,
        fun _ hother => hother.fault_unique hoffends⟩
  have hlone : read lone = .error ⟨3, .loneClosingBrace⟩ := by decide +kernel
  exact ⟨⟨hoffends, hlarge, ((read_refuses_first_offence _ _ _).2.1 hlarge).2⟩, hlone,
    (read_refuses_first_offence _ _ _).1.mp hlone⟩

end Phrasebook.Template
