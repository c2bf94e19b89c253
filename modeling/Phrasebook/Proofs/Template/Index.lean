import Phrasebook.Proofs.Texts
import Phrasebook.Template.Reader

/-!
# Indices of placeholders

What stands between the braces of a placeholder has to spell an index: decimal digits, with blanks
around them, and perhaps a format or a conversion after them. The digits may be as many as one
likes, as long as the number that they spell is below the bound. This is said here on the text
alone (`SpellsIndex`), and the reader accepts exactly that. Whatever stands between the braces, it
has one name (`HasName`), and where the name is no index there is one reason for it (`NoIndex`).

## Main results

* `HasName.fieldName_eq`, `hasName_fieldName`: the reader finds the name of a placeholder.
* `fieldIndex_eq_ok_iff`: the reader of indices accepts exactly what spells one.
* `fieldIndex_eq_error_iff`: the reader of indices says why a name is none.
* `fieldIndex_toString`: an index below the bound is read back from its decimal digits.
-/

namespace Phrasebook.Template

/-- What stands between the braces of a placeholder spells an index: digits between blanks, up to
the end or up to a `:` or a `!`, behind which anything may follow. -/
inductive SpellsIndex : List Char → Nat → Prop where
  | padded {before digits after format : List Char} (hbefore : Text.AllBlank before)
      (hne : digits ≠ []) (hdigits : ∀ c ∈ digits, isDigit c = true) (hafter : Text.AllBlank after)
      (hformat : format = [] ∨ format.head? = some ':' ∨ format.head? = some '!')
      (hbound : Nat.ofDigitChars 10 digits 0 < indexBound) :
      SpellsIndex (before ++ digits ++ after ++ format) (Nat.ofDigitChars 10 digits 0)

/-! ### Digits -/

/-- A digit is none of the characters that are no digits. -/
theorem ne_of_isDigit {c d : Char} (h : isDigit c = true) (hd : isDigit d = false) : c ≠ d := by
  rintro rfl
  exact absurd (h.symm.trans hd) (by simp)

/-- A digit is not blank. -/
theorem isBlank_of_isDigit {c : Char} (h : isDigit c = true) : Text.isBlank c = false := by
  obtain ⟨hlow, hhigh⟩ : 0x30 ≤ c.toNat ∧ c.toNat ≤ 0x39 := by
    simpa [isDigit, Char.le_def, UInt32.le_iff_toNat_le] using h
  have hblank : ∀ n, 0x30 ≤ n → n ≤ 0x39 →
      ((0x09 ≤ n && n ≤ 0x0D) || n == 0x20 || n == 0x85 || n == 0xA0 || n == 0x1680 ||
        (0x2000 ≤ n && n ≤ 0x200A) || n == 0x2028 || n == 0x2029 || n == 0x202F ||
        n == 0x205F || n == 0x3000) = false := by
    intro n _ _
    simp
    omega
  exact hblank _ hlow hhigh

/-- The number that digits spell is the usual one, without a bound. -/
theorem decimal_eq_ofDigitChars (digits : List Char) :
    decimal digits = Nat.ofDigitChars 10 digits 0 :=
  Nat.ofDigitChars_eq_foldl.symm

/-- The decimal spelling of a number has digits only. -/
theorem isDigit_of_mem_toString {n : Nat} {c : Char} (h : c ∈ (toString n).toList) :
    isDigit c = true := by
  rw [Nat.toString_eq_ofList_toDigits, String.toList_ofList] at h
  exact Nat.isDigit_of_mem_toDigits (by decide) (by decide) h

/-- The decimal spelling of a number spells it. -/
theorem decimal_toString (n : Nat) : decimal (toString n).toList = n := by
  rw [decimal_eq_ofDigitChars, Nat.toString_eq_ofList_toDigits, String.toList_ofList,
    Nat.ofDigitChars_ten_toDigits]

/-- Every number has a digit. -/
theorem toString_ne_nil (n : Nat) : (toString n).toList ≠ [] := by
  rw [Nat.toString_eq_ofList_toDigits, String.toList_ofList]
  exact Nat.toDigits_ne_nil

/-! ### The name of a placeholder -/

/-- What stands between the braces of a placeholder has a name: what is left of it before the first
`:` or `!` when the blanks at both ends are taken off. -/
inductive HasName : List Char → List Char → Prop where
  | padded {before name after format : List Char} (hbefore : Text.AllBlank before)
      (htrimmed : Text.Trimmed name) (hname : ∀ c ∈ name, c ≠ ':' ∧ c ≠ '!')
      (hafter : Text.AllBlank after)
      (hformat : format = [] ∨ format.head? = some ':' ∨ format.head? = some '!') :
      HasName (before ++ name ++ after ++ format) name

/-- Whether a character goes before a format or a conversion. -/
def isNameChar (c : Char) : Bool :=
  c != ':' && c != '!'

/-- A name goes on up to a colon or an exclamation mark. -/
theorem isNameChar_iff {c : Char} : isNameChar c = true ↔ c ≠ ':' ∧ c ≠ '!' := by
  simp [isNameChar]

/-- A blank goes before a format or a conversion. -/
theorem isNameChar_of_isBlank {c : Char} (h : Text.isBlank c = true) : isNameChar c = true := by
  refine isNameChar_iff.mpr ⟨?_, ?_⟩ <;>
  · rintro rfl
    exact absurd h (by decide)

/-- The reader takes the name of a placeholder for its name. -/
theorem HasName.fieldName_eq {field name : List Char} (h : HasName field name) :
    fieldName field = name := by
  obtain @⟨before, name, after, format, hbefore, htrimmed, hname, hafter, hformat⟩ := h
  have hchars : ∀ c ∈ before ++ name ++ after, isNameChar c = true := by
    intro c hc
    rcases List.mem_append.mp hc with hc | hc
    · rcases List.mem_append.mp hc with hc | hc
      · exact isNameChar_of_isBlank (hbefore c hc)
      · exact isNameChar_iff.mpr (hname c hc)
    · exact isNameChar_of_isBlank (hafter c hc)
  have hstop : format.head?.any isNameChar = false := by
    rcases hformat with rfl | hformat | hformat
    · rfl
    · rw [hformat]
      decide
    · rw [hformat]
      decide
  have htake : (before ++ name ++ after ++ format).takeWhile isNameChar =
      before ++ name ++ after := by
    rw [List.takeWhile_append_of_pos hchars, takeWhile_eq_nil_of_head? hstop, List.append_nil]
  calc fieldName (before ++ name ++ after ++ format)
      = Text.trim ((before ++ name ++ after ++ format).takeWhile isNameChar) := rfl
    _ = name := by rw [htake, Text.trim_append hbefore htrimmed hafter]

/-- What the reader takes for the name of a placeholder is its name. -/
theorem hasName_fieldName (field : List Char) : HasName field (fieldName field) := by
  obtain ⟨before, after, hparts, hbefore, hafter⟩ :=
    Text.exists_trim (field.takeWhile isNameChar)
  have hfield : field = before ++ fieldName field ++ after ++ field.dropWhile isNameChar :=
    calc field
      = field.takeWhile isNameChar ++ field.dropWhile isNameChar :=
        List.takeWhile_append_dropWhile.symm
    _ = before ++ fieldName field ++ after ++ field.dropWhile isNameChar :=
        congrArg (· ++ field.dropWhile isNameChar) hparts
  have hname : ∀ c ∈ fieldName field, c ≠ ':' ∧ c ≠ '!' := by
    intro c hc
    have hmem : c ∈ field.takeWhile isNameChar := by
      rw [hparts]
      exact List.mem_append_left _ (List.mem_append_right _ hc)
    exact isNameChar_iff.mp (List.mem_takeWhile_imp hmem)
  have hformat : field.dropWhile isNameChar = [] ∨
      (field.dropWhile isNameChar).head? = some ':' ∨
      (field.dropWhile isNameChar).head? = some '!' := by
    have hstop := head?_dropWhile_any isNameChar field
    rcases hrest : field.dropWhile isNameChar with - | ⟨c, rest⟩
    · exact .inl rfl
    · rw [hrest] at hstop
      by_cases hcolon : c = ':'
      · exact .inr (.inl (congrArg some hcolon))
      · have hbang : c = '!' := by
          by_contra hother
          exact absurd (isNameChar_iff.mpr ⟨hcolon, hother⟩) (Bool.eq_false_iff.mp hstop)
        exact .inr (.inr (congrArg some hbang))
  have hnamed : HasName (before ++ fieldName field ++ after ++ field.dropWhile isNameChar)
      (fieldName field) :=
    .padded hbefore (Text.trimmed_trim _) hname hafter hformat
  rwa [← hfield] at hnamed

/-! ### The index of a placeholder -/

/-- Digits between blanks are a name. -/
theorem hasName_digits {before digits after format : List Char} (hbefore : Text.AllBlank before)
    (hdigits : ∀ c ∈ digits, isDigit c = true) (hafter : Text.AllBlank after)
    (hformat : format = [] ∨ format.head? = some ':' ∨ format.head? = some '!') :
    HasName (before ++ digits ++ after ++ format) digits := by
  refine .padded hbefore ?_ ?_ hafter hformat
  · exact Text.trimmed_of_forall fun c hc => isBlank_of_isDigit (hdigits c hc)
  · intro c hc
    exact ⟨ne_of_isDigit (hdigits c hc) (by decide), ne_of_isDigit (hdigits c hc) (by decide)⟩

/-- **The reader of indices accepts exactly what spells one.** -/
theorem fieldIndex_eq_ok_iff {field : List Char} {index : Nat} :
    fieldIndex field = .ok index ↔ SpellsIndex field index := by
  constructor
  · intro h
    have hname := hasName_fieldName field
    simp only [fieldIndex] at h
    generalize fieldName field = name at h hname
    obtain ⟨hbefore, -, -, hafter, hformat⟩ := hname
    split at h
    next => cases h
    next hne =>
      split at h
      next => cases h
      next hdigits =>
        split at h
        next hbound =>
          obtain rfl := Except.ok.inj h
          rw [decimal_eq_ofDigitChars] at hbound ⊢
          exact .padded hbefore (by simpa using hne) (by simpa using hdigits) hafter hformat hbound
        next => cases h
  · rintro ⟨hbefore, hne, hdigits, hafter, hformat, hbound⟩
    have hall := List.all_eq_true.mpr hdigits
    simp only [fieldIndex, (hasName_digits hbefore hdigits hafter hformat).fieldName_eq,
      decimal_eq_ofDigitChars]
    simp [hne, hall, hbound]

/-- A name that is no index, and why: there is none, it has a character that is no digit, or the
number that its digits spell is not below the bound. -/
inductive NoIndex : List Char → Fault → Prop where
  | missing : NoIndex [] .missingIndex
  | notNumeric {name : List Char} {c : Char} (hc : c ∈ name) (hdigit : isDigit c = false) :
      NoIndex name (.notNumeric (String.ofList name))
  | outOfRange {digits : List Char} (hne : digits ≠ []) (hdigits : ∀ c ∈ digits, isDigit c = true)
      (hbound : indexBound ≤ Nat.ofDigitChars 10 digits 0) :
      NoIndex digits (.outOfRange (String.ofList digits))

/-- **The reader of indices says why a name is none.** -/
theorem fieldIndex_eq_error_iff {field : List Char} {fault : Fault} :
    fieldIndex field = .error fault ↔ ∃ name, HasName field name ∧ NoIndex name fault := by
  constructor
  · intro h
    refine ⟨fieldName field, hasName_fieldName field, ?_⟩
    simp only [fieldIndex] at h
    split at h
    next hempty =>
      obtain rfl := Except.error.inj h
      rw [List.isEmpty_iff.mp hempty]
      exact .missing
    next hne =>
      split at h
      next hdigits =>
        obtain rfl := Except.error.inj h
        obtain ⟨c, hc, hdigit⟩ : ∃ c ∈ fieldName field, isDigit c = false := by
          simpa using hdigits
        exact .notNumeric hc hdigit
      next hdigits =>
        split at h
        next => cases h
        next hbound =>
          obtain rfl := Except.error.inj h
          rw [decimal_eq_ofDigitChars, Nat.not_lt] at hbound
          exact .outOfRange (by simpa using hne) (by simpa using hdigits) hbound
  · rintro ⟨name, hname, hnone⟩
    simp only [fieldIndex, hname.fieldName_eq]
    cases hnone with
    | missing => rfl
    | notNumeric hc hdigit =>
        have hne : name ≠ [] := List.ne_nil_of_mem hc
        have hall : name.all isDigit = false := List.all_eq_false.mpr ⟨_, hc, by simp [hdigit]⟩
        simp [hne, hall]
    | outOfRange hne hdigits hbound =>
        have hall := List.all_eq_true.mpr hdigits
        have hlarge : ¬ decimal name < indexBound := by
          rw [decimal_eq_ofDigitChars]
          omega
        simp [hne, hall, hlarge]

/-- An index that is spelled is below the bound. -/
theorem SpellsIndex.lt_indexBound {field : List Char} {index : Nat} (h : SpellsIndex field index) :
    index < indexBound := by
  obtain ⟨-, -, -, -, -, hbound⟩ := h
  exact hbound

/-- The first character of what spells an index is blank or a digit. -/
theorem SpellsIndex.head {field : List Char} {index : Nat} (h : SpellsIndex field index) :
    ∃ c rest, field = c :: rest ∧ (Text.isBlank c = true ∨ isDigit c = true) := by
  obtain @⟨before, digits, after, format, hbefore, hne, hdigits, -, -, -⟩ := h
  rcases before with - | ⟨c, before⟩
  · obtain ⟨c, rest, rfl⟩ := List.exists_cons_of_ne_nil hne
    exact ⟨c, _, rfl, .inr (hdigits c List.mem_cons_self)⟩
  · exact ⟨c, _, rfl, .inl (hbefore c List.mem_cons_self)⟩

/-- What spells an index does not begin with a brace. -/
theorem SpellsIndex.head?_ne_brace {field : List Char} {index : Nat}
    (h : SpellsIndex field index) : field.head? ≠ some '{' := by
  obtain ⟨c, rest, rfl, hc⟩ := h.head
  rintro ⟨⟩
  rcases hc with hc | hc <;> exact absurd hc (by decide)

/-- An index below the bound is spelled by its decimal digits. -/
theorem spellsIndex_toString {n : Nat} (h : n < indexBound) :
    SpellsIndex (toString n).toList n := by
  have hnumber := (decimal_eq_ofDigitChars _).symm.trans (decimal_toString n)
  have hspells : SpellsIndex ([] ++ (toString n).toList ++ [] ++ [])
      (Nat.ofDigitChars 10 (toString n).toList 0) :=
    .padded nofun (toString_ne_nil n) (fun _ => isDigit_of_mem_toString) nofun (.inl rfl)
      (by rwa [hnumber])
  rwa [hnumber, List.append_nil, List.append_nil] at hspells

/-- **An index below the bound is read back from its decimal digits.** -/
theorem fieldIndex_toString {n : Nat} (h : n < indexBound) :
    fieldIndex (toString n).toList = .ok n :=
  fieldIndex_eq_ok_iff.mpr (spellsIndex_toString h)

end Phrasebook.Template
