import Mathlib.Tactic.MkIffOfInductiveProp
import Phrasebook.Proofs.Paths
import Phrasebook.Proofs.Success

/-!
# Include guards

A header that is guarded by `#ifndef` names its guard three times. A C++ compiler takes the guard
for what it is only if the three names agree and are a macro identifier, and the name comes from a
path, which is any bytes at all. This module follows the name on its way: the last component of the
path is decoded, other characters are collapsed to underscores, underscores at the ends are dropped,
letters are capitalized, and a leading digit is protected. Each step leaves characters that may stand
in an identifier, and the last one leaves no digit in front. Where nothing remains, the fixed name
stands in, which is an identifier as well.

That the three names stand at the beginning and at the end of the file is then a matter of its
chunks: a compilation that succeeds has written the beginning first and the end last.

## Main results

* `ofPath_isIdentifier`: every path gives an identifier.
* `header_guarded`: every header that is guarded by `#ifndef` is guarded correctly.
-/

namespace Phrasebook

namespace GuardName

/-- A character that may stand in a macro identifier which has no small letters. -/
def isMacroChar (c : Char) : Bool :=
  ('A' ≤ c && c ≤ 'Z') || ('0' ≤ c && c ≤ '9') || c == '_'

/-- A macro identifier without small letters. -/
@[mk_iff]
structure IsIdentifier (name : String) : Prop where
  nonempty : name ≠ ""
  chars : name.toList.all isMacroChar = true
  head : name.toList.head?.any Template.isDigit = false

instance (name : String) : Decidable (IsIdentifier name) :=
  decidable_of_iff' _ (isIdentifier_iff name)

/-! ### The steps from a text to a name -/

/-- Collapsing leaves letters, digits and underscores. -/
theorem mem_collapse {after : Bool} {cs : List Char} {c : Char} (h : c ∈ collapse after cs) :
    isWordChar c = true ∨ c = '_' := by
  fun_induction collapse after cs with
  | case1 => exact absurd h List.not_mem_nil
  | case2 after d cs hd ih =>
      rcases List.mem_cons.mp h with rfl | hc
      · exact .inl hd
      · exact ih hc
  | case3 d cs hd ih => exact ih h
  | case4 after d cs hd hafter ih =>
      rcases List.mem_cons.mp h with rfl | hc
      · exact .inr rfl
      · exact ih hc

/-- Trimming adds nothing. -/
theorem mem_of_mem_trimUnderscores {cs : List Char} {c : Char} (h : c ∈ trimUnderscores cs) :
    c ∈ cs := by
  rw [trimUnderscores, List.mem_reverse] at h
  have hreverse := (List.dropWhile_sublist _).subset h
  rw [List.mem_reverse] at hreverse
  exact (List.dropWhile_sublist _).subset hreverse

/-- Letters, digits and the underscore are ASCII characters. -/
theorem toNat_lt_of_isWordChar {c : Char} (h : isWordChar c = true ∨ c = '_') : c.toNat < 128 := by
  rcases h with h | rfl
  · simp only [isWordChar, Bool.or_eq_true, Bool.and_eq_true, decide_eq_true_eq, Char.le_def,
      UInt32.le_iff_toNat_le] at h
    change ((97 ≤ c.toNat ∧ c.toNat ≤ 122) ∨ (65 ≤ c.toNat ∧ c.toNat ≤ 90)) ∨
      (48 ≤ c.toNat ∧ c.toNat ≤ 57) at h
    omega
  · decide

/-- The capital of a letter, a digit and the underscore may stand in an identifier. -/
theorem isMacroChar_toUpper {c : Char} (h : isWordChar c = true ∨ c = '_') :
    isMacroChar c.toUpper = true := by
  have hascii : ∀ n < 128, isWordChar (Char.ofNat n) = true ∨ Char.ofNat n = '_' →
      isMacroChar (Char.ofNat n).toUpper = true := by
    decide +kernel
  have hc := hascii c.toNat (toNat_lt_of_isWordChar h)
  rw [Char.ofNat_toNat] at hc
  exact hc h

/-- Protecting a digit adds at most an underscore. -/
theorem mem_protectDigit {cs : List Char} {c : Char} (h : c ∈ protectDigit cs) :
    c = '_' ∨ c ∈ cs := by
  rcases cs with - | ⟨d, cs⟩
  · exact absurd h List.not_mem_nil
  · rw [protectDigit] at h
    split at h
    · exact List.mem_cons.mp h
    · exact .inr h

/-- No digit stands in front once it has been protected. -/
theorem head?_protectDigit (cs : List Char) :
    (protectDigit cs).head?.any Template.isDigit = false := by
  rcases cs with - | ⟨d, cs⟩
  · rfl
  · rw [protectDigit]
    split
    · rfl
    next hd => exact Bool.eq_false_iff.mpr hd

/-- A text gives an identifier, or nothing. -/
theorem ofText_isIdentifier {s : String} (h : ofText s ≠ "") : IsIdentifier (ofText s) where
  nonempty := h
  chars := by
    rw [ofText, String.toList_ofList, List.all_eq_true]
    intro c hc
    rcases mem_protectDigit hc with rfl | hmem
    · decide
    · obtain ⟨d, hd, rfl⟩ := List.mem_map.mp hmem
      exact isMacroChar_toUpper (mem_collapse (mem_of_mem_trimUnderscores hd))
  head := by
    rw [ofText, String.toList_ofList]
    exact head?_protectDigit _

/-- The guard name where no file gives one is an identifier. -/
theorem fallback_isIdentifier : IsIdentifier fallback := by
  decide +kernel

/-- **Every path gives an identifier**, whatever its bytes. -/
theorem ofPath_isIdentifier (p : Path) : IsIdentifier (ofPath p) := by
  rw [ofPath.eq_def]
  split
  · exact fallback_isIdentifier
  · dsimp only
    split
    · exact fallback_isIdentifier
    next h => exact ofText_isIdentifier h

end GuardName

/-! ### The main result -/

/-- A text between the guards of a header. -/
theorem Layout.enclose_ifndef (guard body : String) :
    (Layout.header .ifndef guard).enclose body =
      "#ifndef " ++ guard ++ "\n#define " ++ guard ++ "\n" ++
        ("#include <string>\n#include <sstream>\n" ++ body) ++ "\n#endif // " ++ guard ++ "\n" := by
  simp only [enclose, text, Header.preamble, Header.postamble, String.append_assoc]

/-- **A header that is guarded by `#ifndef` is guarded correctly.** Whatever the output path is, or
if there is none, the guard is a macro identifier; and whenever a compilation succeeds, on whatever
file and sink, this guard is named at the beginning of the text, twice, and at its end. Paths with
the same last component have the same guard, so a name has the same guard in every directory. -/
theorem header_guarded (output : Option Path) :
    let guard := (output.map GuardName.ofPath).getD GuardName.fallback
    GuardName.IsIdentifier guard ∧
      (∀ (admission : Admission) (options : Options) (bytes : Bytes),
        options.target = .cpp → options.guard = .ifndef →
        (compile admission options output (.ok bytes)).failure = none →
        ∃ rest, (compile admission options output (.ok bytes)).written =
          "#ifndef " ++ guard ++ "\n#define " ++ guard ++ "\n" ++ rest ++
            "\n#endif // " ++ guard ++ "\n") ∧
      (∀ p q : Path, p.components.getLast? = q.components.getLast? →
        GuardName.ofPath p = GuardName.ofPath q) ∧
      ∀ dir name : Bytes, Path.slash ∉ name → name ≠ [] → name ≠ [Path.dot] →
        GuardName.ofPath ⟨dir ++ Path.slash :: name⟩ = GuardName.ofPath ⟨name⟩ := by
  intro guard
  refine ⟨?_, ?_, fun p q => GuardName.ofPath_congr, ?_⟩
  · cases output with
    | none => exact GuardName.fallback_isIdentifier
    | some p => exact GuardName.ofPath_isIdentifier p
  · intro admission options bytes htarget hstyle h
    obtain ⟨texts, -, -, -, hchunks⟩ := compile_succeeds h
    have hselect : Layout.select options output = .header .ifndef guard := by
      rw [Layout.select, htarget, hstyle]
    have hwritten := written_eq_enclose hchunks
    rw [hselect, Layout.enclose_ifndef] at hwritten
    exact ⟨_, hwritten⟩
  · intro dir name hslash hname hdot
    exact GuardName.ofPath_congr (Path.getLast?_components_append dir hslash hname hdot)

/-- A path in some directory whose name begins with a digit and has a byte that is no text. -/
theorem header_guarded_digit :
    let name : Bytes := Utf8.encode "9 lives" ++ 0xFF :: Utf8.encode ".hpp"
    let output : Path := ⟨Utf8.encode "/srv/x.d" ++ Path.slash :: name⟩
    let guard := "_9_LIVES_HPP"
    let options : Options := { guard := .ifndef, strict := true }
    let o := compile (.upTo 2000) options (some output) (.ok (Utf8.encode "package p\nm x"))
    GuardName.ofPath output = guard ∧ GuardName.IsIdentifier guard ∧
      (Path.slash ∉ name ∧ GuardName.ofPath output = GuardName.ofPath ⟨name⟩) ∧
      o.failure = none ∧ ∃ rest, o.written =
        "#ifndef " ++ guard ++ "\n#define " ++ guard ++ "\n" ++ rest ++
          "\n#endif // " ++ guard ++ "\n" := by
  intro name output guard options o
  have hguard : GuardName.ofPath output = guard := by decide +kernel
  have hslash : Path.slash ∉ name := by decide +kernel
  have hsucceeds : o.failure = none := by decide +kernel
  obtain ⟨hidentifier, hwritten, -, hdir⟩ := header_guarded (some output)
  rw [Option.map_some, Option.getD_some, hguard] at hidentifier
  obtain ⟨rest, hrest⟩ := hwritten (.upTo 2000) options _ rfl rfl hsucceeds
  rw [Option.map_some, Option.getD_some, hguard] at hrest
  exact ⟨hguard, hidentifier, ⟨hslash, hdir _ name hslash (by decide +kernel) (by decide +kernel)⟩,
    hsucceeds, rest, hrest⟩

end Phrasebook
