import Mathlib.Algebra.Ring.Parity
import Phrasebook.Proofs.Layout.Lossless

/-!
# Where string literals end

A layout writes the text of a literal between two double quotes, just as it is. Whoever reads the
function in its own language reads a string from the first of them on: a backslash takes the next
character with it, whatever that is, and the string ends at the first double quote that is not taken
(`closeString`).

No literal of a template has a double quote, so nothing ends the string before the second of the two
quotes. Backslashes are part of the text and are left to the language of the function. They come in
pairs, of which the first takes the second, or one of them takes the character after it. So the
second quote ends the string exactly if the literal ends in an even number of backslashes. After an
odd number the last backslash takes the quote with it, and the string goes on in what the layout
writes next.

## Main results

* `closeString_append`: where a string ends whose text has no double quote.
* `Layout.toList_function_literal`: where a literal stands in a function.
* `literals_closed_iff`: which literals of a template are closed where the layout closes them.
-/

namespace Phrasebook

/-! ### Reading strings -/

/-- The text of a string and what follows it, given all that follows the quote with which it begins.
A backslash takes the next character with it. -/
def closeString : List Char → Option (List Char × List Char)
  | [] => none
  | '"' :: rest => some ([], rest)
  | '\\' :: c :: rest => (closeString rest).map fun s => ('\\' :: c :: s.1, s.2)
  | c :: rest => (closeString rest).map fun s => (c :: s.1, s.2)

/-- How many backslashes stand at the end of a text. -/
def finalBackslashes (cs : List Char) : Nat :=
  (cs.reverse.takeWhile (· == '\\')).length

/-- A character in front adds to the backslashes at the end only if it is one and they are all that
follows. -/
theorem finalBackslashes_cons (c : Char) (cs : List Char) :
    finalBackslashes (c :: cs) =
      if finalBackslashes cs = cs.length ∧ c = '\\' then cs.length + 1
      else finalBackslashes cs := by
  rw [finalBackslashes, finalBackslashes, List.reverse_cons, List.takeWhile_append,
    List.length_reverse]
  by_cases hall : (cs.reverse.takeWhile (· == '\\')).length = cs.length
  · by_cases hc : c = '\\' <;> simp [hall, hc]
  · simp [hall]

/-- A backslash and the character that it takes do not change whether the number is even. -/
theorem even_finalBackslashes_pair (c : Char) (cs : List Char) :
    Even (finalBackslashes ('\\' :: c :: cs)) ↔ Even (finalBackslashes cs) := by
  have hle : finalBackslashes cs ≤ cs.length := by
    have hrun : finalBackslashes cs ≤ cs.reverse.length := (List.takeWhile_prefix _).length_le
    rwa [List.length_reverse] at hrun
  rw [finalBackslashes_cons, List.length_cons, finalBackslashes_cons c cs]
  by_cases hall : finalBackslashes cs = cs.length ∧ c = '\\'
  · rw [if_pos hall, if_pos ⟨rfl, rfl⟩, hall.1, Nat.even_add_one, Nat.even_add_one, not_not]
  · have hfewer : finalBackslashes cs ≠ cs.length + 1 := by omega
    rw [if_neg hall, if_neg fun hpair => hfewer hpair.1]

/-- **Where a string ends whose text has no double quote**: at the next quote, unless an odd number
of backslashes stands before it. The induction follows the reading of the string, which takes two
characters at a backslash; a backslash at the end of the text takes the quote. -/
theorem closeString_append {text : List Char} (h : '"' ∉ text) (rest : List Char) :
    closeString (text ++ '"' :: rest) =
      if Even (finalBackslashes text) then some (text, rest)
      else (closeString rest).map fun s => (text ++ '"' :: s.1, s.2) := by
  induction text using closeString.induct with
  | case1 => rfl
  | case2 others => exact absurd List.mem_cons_self h
  | case3 c others ih =>
      have hothers : '"' ∉ others := fun hmem =>
        h (List.mem_cons_of_mem _ (List.mem_cons_of_mem _ hmem))
      rw [List.cons_append, List.cons_append, closeString, ih hothers]
      simp only [even_finalBackslashes_pair]
      split
      · rfl
      · rw [Option.map_map]
        rfl
  | case4 c others hquote hslash ih =>
      have hothers : '"' ∉ others := fun hmem => h (List.mem_cons_of_mem _ hmem)
      by_cases hc : c = '\\'
      · subst hc
        obtain rfl : others = [] := by
          rcases others with - | ⟨d, others⟩
          · rfl
          · exact (hslash d others rfl rfl).elim
        rfl
      · have hstep : closeString (c :: (others ++ '"' :: rest)) =
            (closeString (others ++ '"' :: rest)).map fun s => (c :: s.1, s.2) := by
          rw [closeString]
          · exact hquote
          · exact fun _ _ heq => absurd heq hc
        have hsame : finalBackslashes (c :: others) = finalBackslashes others := by
          rw [finalBackslashes_cons, if_neg fun hpair => hc hpair.2]
        rw [List.cons_append, hstep, ih hothers, hsame]
        split
        · rfl
        · rw [Option.map_map]
          rfl

/-! ### Literals of a function -/

namespace Layout

/-- How the parts of a body stand in a function. -/
def partSyntax : Layout → PartSyntax
  | .header _ _ => Header.partSyntax
  | .rustModule => Module.partSyntax

/-- What stands in the function of a message before the parts of its body. -/
def beforeBody : Layout → Message → String
  | .header _ _, m =>
    "\n" ++ Header.templateLine m ++ Header.signature m ++ "\x7b\n    std::ostringstream out;\n" ++
      "    out"
  | .rustModule, m => "\n" ++ Module.signature m ++ "    let mut out = String::new();\n"

/-- What stands in a function after the parts of its body. -/
def afterBody : Layout → String
  | .header _ _ => ";\n" ++ "    return out.str();\n\x7d\n"
  | .rustModule => "    out\n" ++ "\x7d\n"

/-- A function has the parts of its body one after the other. -/
theorem toList_function (layout : Layout) {m : Message} (h : m.body ≠ []) :
    (layout.text (.function m)).toList =
      (layout.beforeBody m).toList ++
        (m.body.flatMap layout.partSyntax.spell ++ layout.afterBody.toList) := by
  cases layout with
  | header style guard =>
      rw [text, Header.toList_function, Header.toList_streamLine h]
      simp only [beforeBody, afterBody, partSyntax, String.toList_append, List.append_assoc]
  | rustModule =>
      rw [text, Module.toList_function, Module.toList_statements h]
      simp only [beforeBody, afterBody, partSyntax, String.toList_append, List.append_assoc]

/-- What stands in a function before a literal, given the parts before it. -/
def beforeLiteral (layout : Layout) (m : Message) (before : List Part) : List Char :=
  (layout.beforeBody m).toList ++ (before.flatMap layout.partSyntax.spell ++ layout.partSyntax.lead)

/-- What stands in a function after a literal, given the parts after it. -/
def afterLiteral (layout : Layout) (after : List Part) : List Char :=
  layout.partSyntax.afterLiteral ++
    (after.flatMap layout.partSyntax.spell ++ layout.afterBody.toList)

/-- **Where a literal stands in a function.** -/
theorem toList_function_literal (layout : Layout) {m : Message} {before after : List Part}
    {text : String} (h : m.body = before ++ .literal text :: after) :
    (layout.text (.function m)).toList =
      layout.beforeLiteral m before ++
        '"' :: (text.toList ++ '"' :: layout.afterLiteral after) := by
  rw [toList_function layout (by simp [h]), h]
  simp [beforeLiteral, afterLiteral, PartSyntax.spell]

end Layout

/-! ### The main result -/

/-- **Which literals of a template are closed where the layout closes them.** Take any template that
is accepted, any literal of its message, any layout, and whatever follows the function. The literal
stands in the function between two double quotes. The string that begins at the first of them ends
at the second exactly if the literal ends in an even number of backslashes. After an odd number it
takes the second quote with it, and goes on up to where a string would end that begins there. -/
theorem literals_closed_iff (layout : Layout) (source name text : String)
    (segments : List Segment) (before after : List Part) (following : List Char)
    (hread : Template.read source = .ok segments)
    (hbody : (Message.ofSegments name segments).body = before ++ .literal text :: after) :
    let m := Message.ofSegments name segments
    let rest := layout.afterLiteral after ++ following
    (layout.text (.function m)).toList ++ following =
        layout.beforeLiteral m before ++ '"' :: (text.toList ++ '"' :: rest) ∧
      (closeString (text.toList ++ '"' :: rest) = some (text.toList, rest) ↔
        Even (finalBackslashes text.toList)) ∧
      (Odd (finalBackslashes text.toList) →
        closeString (text.toList ++ '"' :: rest) =
          (closeString rest).map fun s => (text.toList ++ '"' :: s.1, s.2)) := by
  intro m rest
  have hunquoted : '"' ∉ text.toList :=
    (Template.normal_of_read hread).unquoted_ofSegments name (.literal text) (by simp [hbody])
  have hclose := closeString_append hunquoted rest
  refine ⟨?_, ⟨?_, ?_⟩, ?_⟩
  · rw [layout.toList_function_literal hbody]
    simp [rest, m]
  · intro h
    by_contra hodd
    rw [if_neg hodd, h] at hclose
    obtain ⟨s, -, hs⟩ := Option.map_eq_some_iff.mp hclose.symm
    have hlength := congrArg (fun p => p.1.length) hs
    simp at hlength
  · intro heven
    rw [hclose, if_pos heven]
  · intro hodd
    rw [hclose, if_neg (Nat.not_even_iff_odd.mpr hodd)]

/-- Two backslashes before a placeholder, and one at the end, after which a double quote has been
dropped from the template. -/
theorem literals_closed_iff_dropped_quote :
    let segments : List Segment := [⟨"a\\\\", some 0⟩, ⟨"\\", none⟩]
    let layout := Layout.rustModule
    let rest := layout.afterLiteral [.argument 0, .literal "\\"] ++ "\n\x7d // mod n\n".toList
    let last := layout.afterLiteral [] ++ "\n\x7d // mod n\n".toList
    Template.read "a\\\\\x7b0\x7d\\\"" = .ok segments ∧
      (Message.ofSegments "m" segments).body = [.literal "a\\\\", .argument 0, .literal "\\"] ∧
      closeString ("a\\\\".toList ++ '"' :: rest) = some ("a\\\\".toList, rest) ∧
      closeString ("\\".toList ++ '"' :: last) ≠ some ("\\".toList, last) := by
  intro segments layout rest last
  have hread : Template.read "a\\\\\x7b0\x7d\\\"" = .ok segments := by decide +kernel
  have hbody : (Message.ofSegments "m" segments).body =
      [.literal "a\\\\", .argument 0, .literal "\\"] := by
    decide +kernel
  obtain ⟨-, hfirst, -⟩ := literals_closed_iff layout _ "m" _ segments [] _
    "\n\x7d // mod n\n".toList hread hbody
  obtain ⟨-, hlast, -⟩ := literals_closed_iff layout _ "m" "\\" segments
    [.literal "a\\\\", .argument 0] [] "\n\x7d // mod n\n".toList hread hbody
  refine ⟨hread, hbody, hfirst.mpr (by decide +kernel), ?_⟩
  intro h
  exact absurd (hlast.mp h) (by decide +kernel)

/-- A backslash before a placeholder: in both layouts the string takes the quote that should close
it, and ends at the quote that should open the next one, so that the code between is part of it. -/
theorem literal_swallows_code :
    let segments : List Segment := [⟨"a\\", some 0⟩, ⟨"b", none⟩]
    let m := Message.ofSegments "m" segments
    let header := Layout.header .pragma "M_HPP"
    let inHeader := header.afterLiteral [.argument 0, .literal "b"]
    let inModule := Layout.rustModule.afterLiteral [.argument 0, .literal "b"]
    Template.read "a\\\x7b0\x7db" = .ok segments ∧
      m.body = [.literal "a\\", .argument 0, .literal "b"] ∧
      ((header.text (.function m)).toList =
          header.beforeLiteral m [] ++ '"' :: ("a\\".toList ++ '"' :: inHeader) ∧
        closeString ("a\\".toList ++ '"' :: inHeader) =
          some ("a\\\" << P0 << ".toList, "b\";\n    return out.str();\n\x7d\n".toList) ∧
        closeString ("a\\".toList ++ '"' :: inHeader) ≠ some ("a\\".toList, inHeader)) ∧
      (Layout.rustModule.text (.function m)).toList =
          Layout.rustModule.beforeLiteral m [] ++ '"' :: ("a\\".toList ++ '"' :: inModule) ∧
        closeString ("a\\".toList ++ '"' :: inModule) =
          some ("a\\\");\n    out.push_str(&p0.to_string());\n    out.push_str(".toList,
            "b\");\n    out\n\x7d\n".toList) ∧
        closeString ("a\\".toList ++ '"' :: inModule) ≠ some ("a\\".toList, inModule) := by
  intro segments m header inHeader inModule
  have hbody : m.body = [.literal "a\\", .argument 0, .literal "b"] := by decide +kernel
  refine ⟨by decide +kernel, hbody, ⟨?_, by decide +kernel, by decide +kernel⟩, ?_,
    by decide +kernel, by decide +kernel⟩
  · exact header.toList_function_literal hbody
  · exact Layout.rustModule.toList_function_literal hbody

end Phrasebook
