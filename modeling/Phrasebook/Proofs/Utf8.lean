import Mathlib.Tactic.SplitIfs
import Phrasebook.Text.Utf8

/-!
# Decoding undoes encoding

`Utf8.decode?` reads one byte at a time and holds the sequence that it has begun;
`Utf8.encode` lists the bytes of each character. This module joins the two: a character's
bytes are read back as that character, whatever bytes come after them, so an encoded text
is decoded to itself.

The ASCII characters are the ones that a line reader looks at. Each is its own byte, and no
byte of another character lies below `0x80`, so a byte below `0x80` in an encoded text always
stands for a character of its own.

A text may also come after bytes that are not known to be text. The first byte of a character
never continues a sequence, so one that these bytes have begun is given up there.

No other bytes than those of a text are decoded to it: the ranges of second bytes leave a sequence
no value that has a shorter form, or none at all. So whatever is said about a decoded text can be
said about its bytes, also that it is some text up to capital letters.

## Main results

* `piecesFrom_encodeChar`: the bytes of a character are read as that character.
* `decode_encode`: decoding undoes encoding.
* `encodeChar_ascii` / `high_of_mem_encodeChar`: the bytes of ASCII characters, and of others.
* `decode_append_encode`: an encoded text is decoded to itself, also after bytes that are no text.
* `decode?_eq_some_iff`: encoding undoes decoding as well.
* `map_lowerByte_eq_encode_iff`: capital letters can be made small before decoding.
-/

namespace Phrasebook.Utf8

/-! ### First bytes -/

/-- A byte below `0x80` is read as the character with its number. -/
theorem lead_one {b : UInt8} (h : b.toNat < 0x80) : lead b = .char (Char.ofNat b.toNat) := by
  simp [lead, UInt8.lt_iff_toNat_lt, h]

/-- The first byte of a sequence of two. -/
theorem lead_two {b : UInt8} (h₁ : 0xC2 ≤ b.toNat) (h₂ : b.toNat < 0xE0) :
    lead b = .begins ⟨b.toNat - 0xC0, 0x80, 0xBF, 0⟩ := by
  have h80 : ¬ b.toNat < 128 := by omega
  have hC2 : ¬ b.toNat < 194 := by omega
  simp [lead, UInt8.lt_iff_toNat_lt, h80, hC2, h₂]

/-- The first byte of a sequence of three. -/
theorem lead_three {b : UInt8} (h₁ : 0xE0 ≤ b.toNat) (h₂ : b.toNat < 0xF0) :
    lead b = .begins ⟨b.toNat - 0xE0, if b.toNat = 0xE0 then 0xA0 else 0x80,
      if b.toNat = 0xED then 0x9F else 0xBF, 1⟩ := by
  have h80 : ¬ b.toNat < 128 := by omega
  have hC2 : ¬ b.toNat < 194 := by omega
  have hE0 : ¬ b.toNat < 224 := by omega
  simp [lead, UInt8.lt_iff_toNat_lt, ← UInt8.toNat_inj, h80, hC2, hE0, h₂]

/-- The first byte of a sequence of four. -/
theorem lead_four {b : UInt8} (h₁ : 0xF0 ≤ b.toNat) (h₂ : b.toNat < 0xF5) :
    lead b = .begins ⟨b.toNat - 0xF0, if b.toNat = 0xF0 then 0x90 else 0x80,
      if b.toNat = 0xF4 then 0x8F else 0xBF, 2⟩ := by
  have h80 : ¬ b.toNat < 128 := by omega
  have hC2 : ¬ b.toNat < 194 := by omega
  have hE0 : ¬ b.toNat < 224 := by omega
  have hF0 : ¬ b.toNat < 240 := by omega
  simp [lead, UInt8.lt_iff_toNat_lt, ← UInt8.toNat_inj, h80, hC2, hE0, hF0, h₂]

/-- A byte that begins no sequence. -/
theorem lead_broken {b : UInt8} (h : 0x80 ≤ b.toNat ∧ b.toNat < 0xC2 ∨ 0xF5 ≤ b.toNat) :
    lead b = .broken := by
  have h80 : ¬ b.toNat < 128 := by omega
  rcases h with ⟨-, hC2⟩ | hF5
  · simp [lead, UInt8.lt_iff_toNat_lt, h80, hC2]
  · have hC2 : ¬ b.toNat < 194 := by omega
    have hE0 : ¬ b.toNat < 224 := by omega
    have hF0 : ¬ b.toNat < 240 := by omega
    have hlast : ¬ b.toNat < 245 := by omega
    simp [lead, UInt8.lt_iff_toNat_lt, h80, hC2, hE0, hF0, hlast]

/-! ### Further bytes -/

/-- The last byte of a begun sequence completes its character. -/
theorem piecesFrom_last {bits : Nat} {low high b : UInt8} (bs : Bytes)
    (hl : low.toNat ≤ b.toNat) (hh : b.toNat ≤ high.toNat) :
    piecesFrom (some ⟨bits, low, high, 0⟩) (b :: bs) =
      .char (Char.ofNat (bits * 0x40 + (b.toNat - 0x80))) :: piecesFrom none bs := by
  have hin : (decide (low ≤ b) && decide (b ≤ high)) = true := by
    simp [UInt8.le_iff_toNat_le, hl, hh]
  rw [piecesFrom, if_pos hin]
  dsimp only [Pending.extend]

/-- A byte in the middle of a begun sequence adds its bits. -/
theorem piecesFrom_more {bits further : Nat} {low high b : UInt8} (bs : Bytes)
    (hl : low.toNat ≤ b.toNat) (hh : b.toNat ≤ high.toNat) :
    piecesFrom (some ⟨bits, low, high, further + 1⟩) (b :: bs) =
      piecesFrom (some ⟨bits * 0x40 + (b.toNat - 0x80), 0x80, 0xBF, further⟩) bs := by
  have hin : (decide (low ≤ b) && decide (b ≤ high)) = true := by
    simp [UInt8.le_iff_toNat_le, hl, hh]
  rw [piecesFrom, if_pos hin]
  dsimp only [Pending.extend]

/-- A byte that cannot continue a begun sequence is read afresh. -/
theorem piecesFrom_broken {p : Pending} {b : UInt8} (bs : Bytes)
    (h : b.toNat < p.low.toNat ∨ p.high.toNat < b.toNat) :
    piecesFrom (some p) (b :: bs) = .broken :: piecesFrom none (b :: bs) := by
  have hout : ¬ (decide (p.low ≤ b) && decide (b ≤ p.high)) = true := by
    simp only [Bool.and_eq_true, decide_eq_true_eq, UInt8.le_iff_toNat_le]
    omega
  exact if_neg hout

/-! ### Whole characters -/

/-- An ASCII character is encoded by the byte of its number. -/
theorem encodeChar_ascii {c : Char} (h : c.toNat < 0x80) :
    String.utf8EncodeChar c = [UInt8.ofNat c.toNat] := by
  have hv : c.val.toNat ≤ 0x7f := by
    change c.toNat ≤ 0x7f
    omega
  rw [String.utf8EncodeChar]
  simp only [hv, if_true]
  rfl

/-- No byte of a character outside of ASCII is an ASCII byte: each is a remainder plus `0x80` or
more. -/
theorem high_of_mem_encodeChar {c : Char} {b : UInt8} (h : 0x80 ≤ c.toNat)
    (hb : b ∈ String.utf8EncodeChar c) : 0x80 ≤ b.toNat := by
  have hv : ¬ c.val.toNat ≤ 0x7f := by
    change ¬ c.toNat ≤ 0x7f
    omega
  rw [String.utf8EncodeChar] at hb
  simp only [hv, if_false] at hb
  split_ifs at hb <;> simp only [List.mem_cons, List.not_mem_nil, or_false] at hb <;>
    rcases hb with rfl | rfl | rfl | rfl <;> rw [UInt8.toNat_ofNat'] <;> omega

/-- The number of a byte is the number that it was made from. -/
theorem toNat_byte {n : Nat} (h : n < 0x100) : (UInt8.ofNat n).toNat = n := by
  rw [UInt8.toNat_ofNat']
  omega

/-- The last byte of a sequence lies in the range that is left to it. -/
theorem last_in_range (v : Nat) :
    (0x80 : UInt8).toNat ≤ (UInt8.ofNat (v % 64 + 128)).toNat ∧
      (UInt8.ofNat (v % 64 + 128)).toNat ≤ (0xBF : UInt8).toNat := by
  rw [toNat_byte (by omega)]
  exact ⟨Nat.le_add_left 0x80 _, show v % 64 + 128 ≤ 0xBF by omega⟩

/-- Two bytes are read as the character with their bits. -/
theorem piecesFrom_two {v : Nat} (h₁ : 0x7f < v) (h₂ : v ≤ 0x7ff) (bs : Bytes) :
    piecesFrom none (UInt8.ofNat (v / 64 % 32 + 192) :: UInt8.ofNat (v % 64 + 128) :: bs) =
      .char (Char.ofNat v) :: piecesFrom none bs := by
  have hb := toNat_byte (n := v / 64 % 32 + 192) (by omega)
  have hlast := toNat_byte (n := v % 64 + 128) (by omega)
  have hbits : (v / 64 % 32 + 192 - 192) * 64 + (v % 64 + 128 - 128) = v := by omega
  obtain ⟨hlow, hhigh⟩ := last_in_range v
  rw [piecesFrom, startPieces, lead_two (by omega) (by omega)]
  dsimp only
  rw [piecesFrom_last bs hlow hhigh, hb, hlast, hbits]

/-- Three bytes are read as the character with their bits, unless that is a surrogate. -/
theorem piecesFrom_three {v : Nat} (h₁ : 0x7ff < v) (h₂ : v ≤ 0xffff)
    (hsurrogate : v < 0xD800 ∨ 0xDFFF < v) (bs : Bytes) :
    piecesFrom none (UInt8.ofNat (v / 4096 % 16 + 224) :: UInt8.ofNat (v / 64 % 64 + 128) ::
        UInt8.ofNat (v % 64 + 128) :: bs) =
      .char (Char.ofNat v) :: piecesFrom none bs := by
  have hb := toNat_byte (n := v / 4096 % 16 + 224) (by omega)
  have hnext := toNat_byte (n := v / 64 % 64 + 128) (by omega)
  have hlast := toNat_byte (n := v % 64 + 128) (by omega)
  have hbits : ((v / 4096 % 16 + 224 - 224) * 64 + (v / 64 % 64 + 128 - 128)) * 64 +
      (v % 64 + 128 - 128) = v := by omega
  have hlow : (if (UInt8.ofNat (v / 4096 % 16 + 224)).toNat = 0xE0 then (0xA0 : UInt8)
      else 0x80).toNat ≤ (UInt8.ofNat (v / 64 % 64 + 128)).toNat := by
    rw [hb, hnext]
    split_ifs
    · change 0xA0 ≤ v / 64 % 64 + 128
      omega
    · exact Nat.le_add_left 0x80 _
  have hhigh : (UInt8.ofNat (v / 64 % 64 + 128)).toNat ≤
      (if (UInt8.ofNat (v / 4096 % 16 + 224)).toNat = 0xED then (0x9F : UInt8)
        else 0xBF).toNat := by
    rw [hb, hnext]
    split_ifs
    · change v / 64 % 64 + 128 ≤ 0x9F
      omega
    · change v / 64 % 64 + 128 ≤ 0xBF
      omega
  obtain ⟨hlow', hhigh'⟩ := last_in_range v
  rw [piecesFrom, startPieces, lead_three (by omega) (by omega)]
  dsimp only
  rw [piecesFrom_more _ hlow hhigh, piecesFrom_last bs hlow' hhigh', hb, hnext, hlast, hbits]

/-- Four bytes are read as the character with their bits, unless that is above the last one. -/
theorem piecesFrom_four {v : Nat} (h₁ : 0xffff < v) (h₂ : v < 0x110000) (bs : Bytes) :
    piecesFrom none (UInt8.ofNat (v / 262144 % 8 + 240) :: UInt8.ofNat (v / 4096 % 64 + 128) ::
        UInt8.ofNat (v / 64 % 64 + 128) :: UInt8.ofNat (v % 64 + 128) :: bs) =
      .char (Char.ofNat v) :: piecesFrom none bs := by
  have hb := toNat_byte (n := v / 262144 % 8 + 240) (by omega)
  have hnext := toNat_byte (n := v / 4096 % 64 + 128) (by omega)
  have hthird := toNat_byte (n := v / 64 % 64 + 128) (by omega)
  have hlast := toNat_byte (n := v % 64 + 128) (by omega)
  have hbits : (((v / 262144 % 8 + 240 - 240) * 64 + (v / 4096 % 64 + 128 - 128)) * 64 +
      (v / 64 % 64 + 128 - 128)) * 64 + (v % 64 + 128 - 128) = v := by omega
  have hlow : (if (UInt8.ofNat (v / 262144 % 8 + 240)).toNat = 0xF0 then (0x90 : UInt8)
      else 0x80).toNat ≤ (UInt8.ofNat (v / 4096 % 64 + 128)).toNat := by
    rw [hb, hnext]
    split_ifs
    · change 0x90 ≤ v / 4096 % 64 + 128
      omega
    · exact Nat.le_add_left 0x80 _
  have hhigh : (UInt8.ofNat (v / 4096 % 64 + 128)).toNat ≤
      (if (UInt8.ofNat (v / 262144 % 8 + 240)).toNat = 0xF4 then (0x8F : UInt8)
        else 0xBF).toNat := by
    rw [hb, hnext]
    split_ifs
    · change v / 4096 % 64 + 128 ≤ 0x8F
      omega
    · change v / 4096 % 64 + 128 ≤ 0xBF
      omega
  obtain ⟨hlow₃, hhigh₃⟩ := last_in_range (v / 64)
  obtain ⟨hlow₄, hhigh₄⟩ := last_in_range v
  rw [piecesFrom, startPieces, lead_four (by omega) (by omega)]
  dsimp only
  rw [piecesFrom_more _ hlow hhigh, piecesFrom_more _ hlow₃ hhigh₃,
    piecesFrom_last bs hlow₄ hhigh₄, hb, hnext, hthird, hlast, hbits]

/-- **The bytes of a character are read as that character**, whatever follows them. -/
theorem piecesFrom_encodeChar (c : Char) (bs : Bytes) :
    piecesFrom none (String.utf8EncodeChar c ++ bs) = .char c :: piecesFrom none bs := by
  have hvalid : c.val.toNat < 0xD800 ∨ 0xDFFF < c.val.toNat ∧ c.val.toNat < 0x110000 := c.valid
  have hchar : Char.ofNat c.val.toNat = c := Char.ofNat_toNat c
  rw [String.utf8EncodeChar]
  generalize c.val.toNat = v at hvalid hchar
  rw [← hchar]
  split_ifs with h₁ h₂ h₃
  · have hb := toNat_byte (n := v) (by omega)
    rw [List.cons_append, List.nil_append, piecesFrom, startPieces, lead_one (by omega), hb]
  · exact piecesFrom_two (by omega) h₂ bs
  · exact piecesFrom_three (by omega) h₃ (by omega) bs
  · exact piecesFrom_four (by omega) (by omega) bs

/-! ### Whole texts -/

/-- The empty text has no bytes. -/
@[simp] theorem encode_empty : encode "" = [] := by
  simp [encode]

/-- The bytes of a single character. -/
theorem encode_singleton (c : Char) : encode (String.ofList [c]) = String.utf8EncodeChar c := by
  simp [encode]

/-- The bytes of the first character come before those of the others. -/
theorem encode_ofList_cons (c : Char) (cs : List Char) :
    encode (String.ofList (c :: cs)) = String.utf8EncodeChar c ++ encode (String.ofList cs) := by
  simp [encode]

/-- The bytes of two texts in turn. -/
theorem encode_ofList_append (cs ds : List Char) :
    encode (String.ofList (cs ++ ds)) = encode (String.ofList cs) ++ encode (String.ofList ds) := by
  simp [encode]

/-- Only the empty text has no bytes. -/
theorem encode_ofList_eq_nil_iff {cs : List Char} : encode (String.ofList cs) = [] ↔ cs = [] := by
  cases cs with
  | nil => simp [encode]
  | cons c cs =>
      rw [encode_ofList_cons, List.append_eq_nil_iff]
      simp [String.utf8EncodeChar_ne_nil]

/-- The pieces of an encoded text are its characters. -/
theorem pieces_encode (s : String) : pieces (encode s) = s.toList.map .char := by
  rw [pieces, encode]
  induction s.toList with
  | nil => rfl
  | cons c cs ih => rw [List.flatMap_cons, piecesFrom_encodeChar, ih, List.map_cons]

/-- Characters are all that their pieces hold. -/
theorem mapM_char? (cs : List Char) : (cs.map Piece.char).mapM Piece.char? = some cs := by
  induction cs with
  | nil => rfl
  | cons c cs ih => rw [List.map_cons, List.mapM_cons, ih]; rfl

/-- **Decoding undoes encoding.** -/
theorem decode_encode (s : String) : decode? (encode s) = some s := by
  rw [decode?, pieces_encode, mapM_char?, Option.map_some, String.ofList_toList]

/-! ### A text after any bytes -/

/-- The next byte of a begun sequence cannot be the first byte of a character. -/
structure Pending.Continues (p : Pending) : Prop where
  low : 0x80 ≤ p.low.toNat
  high : p.high.toNat ≤ 0xBF

/-- The sequence that a byte begins can only be continued. -/
theorem lead_continues {b : UInt8} {p : Pending} (h : lead b = .begins p) : p.Continues := by
  rw [lead] at h
  split_ifs at h <;> obtain rfl := Lead.begins.inj h <;> constructor <;> dsimp only <;> decide

/-- The first byte of a character does not continue a sequence. -/
theorem encodeChar_first (c : Char) :
    ∃ b bs, String.utf8EncodeChar c = b :: bs ∧ (b.toNat < 0x80 ∨ 0xBF < b.toNat) := by
  rw [String.utf8EncodeChar]
  split_ifs with h₁ h₂ h₃
  · refine ⟨_, _, rfl, .inl ?_⟩
    rw [toNat_byte (by omega)]
    omega
  all_goals
    refine ⟨_, _, rfl, .inr ?_⟩
    rw [toNat_byte (by omega)]
    omega

/-- What is added at the end of what follows a byte is added at the end of all. -/
theorem startPieces_append (b : UInt8) {next next' : Option Pending → List Piece}
    {tail : List Piece} (h : ∀ p, (∀ q ∈ p, q.Continues) → next p = next' p ++ tail) :
    startPieces b next = startPieces b next' ++ tail := by
  rw [startPieces, startPieces]
  cases hlead : lead b with
  | char c => exact congrArg (Piece.char c :: ·) (h none nofun)
  | broken => exact congrArg (Piece.broken :: ·) (h none nofun)
  | begins p =>
      refine h (some p) ?_
      rintro q ⟨⟩
      exact lead_continues hlead

/-- The bytes of a text are read as its characters, without an invalid piece. -/
theorem piecesFrom_encode (cs : List Char) :
    piecesFrom none (encode (String.ofList cs)) = cs.map .char := by
  rw [← pieces, pieces_encode, String.toList_ofList]

/-- A text gives up a sequence that has been begun before it. -/
theorem piecesFrom_begun {p : Pending} (hp : p.Continues) (cs : List Char) :
    piecesFrom (some p) (encode (String.ofList cs)) = .broken :: cs.map .char := by
  rcases cs with - | ⟨c, cs⟩
  · rw [String.ofList_nil, encode_empty]
    rfl
  · rw [← piecesFrom_encode, encode_ofList_cons]
    obtain ⟨b, bs, hc, hb⟩ := encodeChar_first c
    have hlow := hp.low
    have hhigh := hp.high
    rw [hc, List.cons_append]
    exact piecesFrom_broken _ (by omega)

/-- A text after any bytes is read as itself, given the sequence that has been begun before them. -/
theorem piecesFrom_append_encode {p : Option Pending} (hp : ∀ q ∈ p, q.Continues) (bs : Bytes)
    (cs : List Char) :
    piecesFrom p (bs ++ encode (String.ofList cs)) = piecesFrom p bs ++ cs.map .char := by
  induction bs generalizing p with
  | nil =>
      rw [List.nil_append]
      cases p with
      | none => exact piecesFrom_encode cs
      | some q => exact piecesFrom_begun (hp q rfl) cs
  | cons b bs ih =>
      cases p with
      | none => exact startPieces_append b fun p hp => ih hp
      | some q =>
          rw [List.cons_append, piecesFrom, piecesFrom]
          split
          next =>
            split
            next => rw [ih (p := none) nofun, List.cons_append]
            next further _ =>
              refine ih fun r hr => ?_
              obtain rfl := Option.some.inj hr
              exact ⟨Nat.le_refl 0x80, Nat.le_refl 0xBF⟩
          next => rw [startPieces_append b fun p hp => ih hp, List.cons_append]

/-- **A text after any bytes is read as itself.** It does not mend what is broken in these bytes,
and nothing in them breaks it. -/
theorem decode_append_encode (bs : Bytes) (s : String) :
    decode? (bs ++ encode s) = (decode? bs).map (· ++ s) := by
  have hpieces : pieces (bs ++ encode s) = pieces bs ++ s.toList.map .char := by
    have h := piecesFrom_append_encode (p := none) nofun bs s.toList
    rwa [String.ofList_toList] at h
  rw [decode?, decode?, hpieces, List.mapM_append, mapM_char?]
  cases (pieces bs).mapM Piece.char? with
  | none => rfl
  | some cs =>
      change some (String.ofList (cs ++ s.toList)) = some (String.ofList cs ++ s)
      rw [String.ofList_append, String.ofList_toList]

/-! ### Encoding undoes decoding -/

/-- The bytes of the character with a given number, if there is one. -/
theorem encodeChar_ofNat {v : Nat} (h : v < 0xD800 ∨ 0xDFFF < v ∧ v < 0x110000) :
    String.utf8EncodeChar (Char.ofNat v) =
      if v ≤ 0x7f then [UInt8.ofNat v]
      else if v ≤ 0x7ff then [UInt8.ofNat (v / 64 % 32 + 192), UInt8.ofNat (v % 64 + 128)]
      else if v ≤ 0xffff then
        [UInt8.ofNat (v / 4096 % 16 + 224), UInt8.ofNat (v / 64 % 64 + 128),
          UInt8.ofNat (v % 64 + 128)]
      else
        [UInt8.ofNat (v / 262144 % 8 + 240), UInt8.ofNat (v / 4096 % 64 + 128),
          UInt8.ofNat (v / 64 % 64 + 128), UInt8.ofNat (v % 64 + 128)] := by
  have hv : (Char.ofNat v).val.toNat = v := by
    rw [Char.ofNat, dif_pos h]
    rfl
  simp only [String.utf8EncodeChar, hv]

/-- An ASCII byte is the only byte of its character. -/
theorem encodeChar_byte {b : UInt8} (h : b.toNat < 0x80) :
    String.utf8EncodeChar (Char.ofNat b.toNat) = [b] := by
  rw [encodeChar_ofNat (.inl (by omega)), if_pos (by omega), UInt8.ofNat_toNat]

/-- A byte is made from its number. -/
theorem ofNat_eq_of_toNat {n : Nat} {b : UInt8} (h : n = b.toNat) : UInt8.ofNat n = b := by
  rw [h, UInt8.ofNat_toNat]

/-- Bytes that begin with those of a character, and have the given pieces after them. -/
def ReadsFirst (bs : Bytes) (c : Char) (rest : List Piece) : Prop :=
  ∃ bs', bs = String.utf8EncodeChar c ++ bs' ∧ piecesFrom none bs' = rest

/-- A begun sequence goes on with a byte in its range, if it is not given up. -/
theorem exists_of_piecesFrom_some {p : Pending} {bs : Bytes} {c : Char} {rest : List Piece}
    (h : piecesFrom (some p) bs = .char c :: rest) :
    ∃ b bs', bs = b :: bs' ∧ p.low.toNat ≤ b.toNat ∧ b.toNat ≤ p.high.toNat := by
  rcases bs with - | ⟨b, bs'⟩
  · exact absurd h (by simp [piecesFrom])
  · refine ⟨b, bs', rfl, ?_⟩
    by_cases hout : b.toNat < p.low.toNat ∨ p.high.toNat < b.toNat
    · rw [piecesFrom_broken bs' hout] at h
      exact absurd h (by simp)
    · omega

/-- The last byte of a sequence, with the character that the sequence spells. -/
theorem exists_of_piecesFrom_last {bits : Nat} {low high : UInt8} {bs : Bytes} {c : Char}
    {rest : List Piece} (h : piecesFrom (some ⟨bits, low, high, 0⟩) bs = .char c :: rest) :
    ∃ b bs', bs = b :: bs' ∧ low.toNat ≤ b.toNat ∧ b.toNat ≤ high.toNat ∧
      Char.ofNat (bits * 0x40 + (b.toNat - 0x80)) = c ∧ piecesFrom none bs' = rest := by
  obtain ⟨b, bs', rfl, hlow, hhigh⟩ := exists_of_piecesFrom_some h
  rw [piecesFrom_last bs' hlow hhigh, List.cons.injEq, Piece.char.injEq] at h
  exact ⟨b, bs', rfl, hlow, hhigh, h⟩

/-- A byte in the middle of a sequence. -/
theorem exists_of_piecesFrom_more {bits further : Nat} {low high : UInt8} {bs : Bytes} {c : Char}
    {rest : List Piece}
    (h : piecesFrom (some ⟨bits, low, high, further + 1⟩) bs = .char c :: rest) :
    ∃ b bs', bs = b :: bs' ∧ low.toNat ≤ b.toNat ∧ b.toNat ≤ high.toNat ∧
      piecesFrom (some ⟨bits * 0x40 + (b.toNat - 0x80), 0x80, 0xBF, further⟩) bs' =
        .char c :: rest := by
  obtain ⟨b, bs', rfl, hlow, hhigh⟩ := exists_of_piecesFrom_some h
  rw [piecesFrom_more bs' hlow hhigh] at h
  exact ⟨b, bs', rfl, hlow, hhigh, h⟩

section

variable {b : UInt8} {bs : Bytes} {c : Char} {rest : List Piece}

/-- A character of two bytes. -/
theorem readsFirst_two (h₁ : 0xC2 ≤ b.toNat) (h₂ : b.toNat < 0xE0)
    (h : piecesFrom none (b :: bs) = .char c :: rest) : ReadsFirst (b :: bs) c rest := by
  rw [piecesFrom, startPieces, lead_two h₁ h₂] at h
  obtain ⟨b₂, bs', rfl, hlow, hhigh, hc, hrest⟩ := exists_of_piecesFrom_last h
  simp only [UInt8.reduceToNat] at hlow hhigh
  refine ⟨bs', ?_, hrest⟩
  generalize hv : (b.toNat - 0xC0) * 0x40 + (b₂.toNat - 0x80) = v at hc
  rw [← hc, encodeChar_ofNat (.inl (by omega)), if_neg (by omega), if_pos (by omega),
    ofNat_eq_of_toNat (show _ = b.toNat by omega), ofNat_eq_of_toNat (show _ = b₂.toNat by omega)]
  rfl

/-- A character of three bytes is neither one of two bytes nor a surrogate. -/
theorem readsFirst_three (h₁ : 0xE0 ≤ b.toNat) (h₂ : b.toNat < 0xF0)
    (h : piecesFrom none (b :: bs) = .char c :: rest) : ReadsFirst (b :: bs) c rest := by
  rw [piecesFrom, startPieces, lead_three h₁ h₂] at h
  obtain ⟨b₂, bs₂, rfl, hlow₂, hhigh₂, h⟩ := exists_of_piecesFrom_more h
  obtain ⟨b₃, bs', rfl, hlow₃, hhigh₃, hc, hrest⟩ := exists_of_piecesFrom_last h
  simp only [UInt8.reduceToNat] at hlow₃ hhigh₃
  have hlow : 0x80 ≤ b₂.toNat ∧ (b.toNat = 0xE0 → 0xA0 ≤ b₂.toNat) := by
    split at hlow₂ <;> simp only [UInt8.reduceToNat] at hlow₂ <;> omega
  have hhigh : b₂.toNat ≤ 0xBF ∧ (b.toNat = 0xED → b₂.toNat ≤ 0x9F) := by
    split at hhigh₂ <;> simp only [UInt8.reduceToNat] at hhigh₂ <;> omega
  refine ⟨bs', ?_, hrest⟩
  generalize hv : ((b.toNat - 0xE0) * 0x40 + (b₂.toNat - 0x80)) * 0x40 + (b₃.toNat - 0x80) = v at hc
  rw [← hc, encodeChar_ofNat (by omega), if_neg (by omega), if_neg (by omega), if_pos (by omega),
    ofNat_eq_of_toNat (show _ = b.toNat by omega), ofNat_eq_of_toNat (show _ = b₂.toNat by omega),
    ofNat_eq_of_toNat (show _ = b₃.toNat by omega)]
  rfl

/-- A character of four bytes is neither one of three bytes nor above the last one. -/
theorem readsFirst_four (h₁ : 0xF0 ≤ b.toNat) (h₂ : b.toNat < 0xF5)
    (h : piecesFrom none (b :: bs) = .char c :: rest) : ReadsFirst (b :: bs) c rest := by
  rw [piecesFrom, startPieces, lead_four h₁ h₂] at h
  obtain ⟨b₂, bs₂, rfl, hlow₂, hhigh₂, h⟩ := exists_of_piecesFrom_more h
  obtain ⟨b₃, bs₃, rfl, hlow₃, hhigh₃, h⟩ := exists_of_piecesFrom_more h
  obtain ⟨b₄, bs', rfl, hlow₄, hhigh₄, hc, hrest⟩ := exists_of_piecesFrom_last h
  simp only [UInt8.reduceToNat] at hlow₃ hhigh₃ hlow₄ hhigh₄
  have hlow : 0x80 ≤ b₂.toNat ∧ (b.toNat = 0xF0 → 0x90 ≤ b₂.toNat) := by
    split at hlow₂ <;> simp only [UInt8.reduceToNat] at hlow₂ <;> omega
  have hhigh : b₂.toNat ≤ 0xBF ∧ (b.toNat = 0xF4 → b₂.toNat ≤ 0x8F) := by
    split at hhigh₂ <;> simp only [UInt8.reduceToNat] at hhigh₂ <;> omega
  refine ⟨bs', ?_, hrest⟩
  generalize hv : (((b.toNat - 0xF0) * 0x40 + (b₂.toNat - 0x80)) * 0x40 +
    (b₃.toNat - 0x80)) * 0x40 + (b₄.toNat - 0x80) = v at hc
  rw [← hc, encodeChar_ofNat (by omega), if_neg (by omega), if_neg (by omega), if_neg (by omega),
    ofNat_eq_of_toNat (show _ = b.toNat by omega), ofNat_eq_of_toNat (show _ = b₂.toNat by omega),
    ofNat_eq_of_toNat (show _ = b₃.toNat by omega), ofNat_eq_of_toNat (show _ = b₄.toNat by omega)]
  rfl

end

/-- **A character is read from its own bytes only.** -/
theorem readsFirst_of_piecesFrom {bs : Bytes} {c : Char} {rest : List Piece}
    (h : piecesFrom none bs = .char c :: rest) : ReadsFirst bs c rest := by
  rcases bs with - | ⟨b, bs⟩
  · exact absurd h (by simp [piecesFrom])
  by_cases hone : b.toNat < 0x80
  · rw [piecesFrom, startPieces, lead_one hone] at h
    obtain ⟨hc, hrest⟩ := List.cons.inj h
    refine ⟨bs, ?_, hrest⟩
    rw [← Piece.char.inj hc, encodeChar_byte hone]
    rfl
  by_cases hbroken : b.toNat < 0xC2 ∨ 0xF5 ≤ b.toNat
  · rw [piecesFrom, startPieces, lead_broken (by omega)] at h
    exact absurd h (by simp)
  by_cases htwo : b.toNat < 0xE0
  · exact readsFirst_two (by omega) htwo h
  by_cases hthree : b.toNat < 0xF0
  · exact readsFirst_three (by omega) hthree h
  · exact readsFirst_four (by omega) (by omega) h

/-- A begun sequence leaves a piece. -/
theorem piecesFrom_some_ne_nil (p : Pending) (bs : Bytes) : piecesFrom (some p) bs ≠ [] := by
  induction bs generalizing p with
  | nil => exact List.cons_ne_nil _ _
  | cons b bs ih =>
      rw [piecesFrom]
      split
      · split
        · exact List.cons_ne_nil _ _
        · exact ih _
      · exact List.cons_ne_nil _ _

/-- Only the empty byte string has no pieces. -/
theorem pieces_eq_nil_iff {bs : Bytes} : pieces bs = [] ↔ bs = [] := by
  refine ⟨fun h => ?_, fun h => h ▸ rfl⟩
  rcases bs with - | ⟨b, bs⟩
  · rfl
  · rw [pieces, piecesFrom, startPieces] at h
    split at h
    · exact absurd h (List.cons_ne_nil _ _)
    · exact absurd h (piecesFrom_some_ne_nil _ _)
    · exact absurd h (List.cons_ne_nil _ _)

/-- Pieces that all are characters are read from the bytes of these characters. -/
theorem eq_encode_of_pieces {bs : Bytes} {cs : List Char} (h : pieces bs = cs.map .char) :
    bs = encode (String.ofList cs) := by
  induction cs generalizing bs with
  | nil => rw [pieces_eq_nil_iff.mp h, String.ofList_nil, encode_empty]
  | cons c cs ih =>
      obtain ⟨bs', rfl, hrest⟩ := readsFirst_of_piecesFrom h
      rw [encode_ofList_cons, ih hrest]

/-- Pieces that all have characters are these characters. -/
theorem eq_map_char_of_mapM {ps : List Piece} {cs : List Char} (h : ps.mapM Piece.char? = some cs) :
    ps = cs.map .char := by
  induction ps generalizing cs with
  | nil =>
      obtain rfl := Option.some.inj h
      rfl
  | cons p ps ih =>
      simp only [List.mapM_cons, Option.bind_eq_bind, Option.bind_eq_some_iff, Option.pure_def,
        Option.some.injEq] at h
      obtain ⟨c, hc, rest, hrest, rfl⟩ := h
      cases p with
      | char d =>
          obtain rfl := Option.some.inj hc
          rw [List.map_cons, ih hrest]
      | broken => exact absurd hc (by simp [Piece.char?])

/-- **A text is decoded from its own bytes only.** -/
theorem decode?_eq_some_iff {bs : Bytes} {s : String} : decode? bs = some s ↔ bs = encode s := by
  refine ⟨fun h => ?_, fun h => h ▸ decode_encode s⟩
  obtain ⟨cs, hcs, rfl⟩ := Option.map_eq_some_iff.mp h
  exact eq_encode_of_pieces (eq_map_char_of_mapM hcs)

/-! ### Small letters -/

/-- The byte of the small letter for that of a capital one, and any other byte as it is. -/
def lowerByte (b : UInt8) : UInt8 :=
  if 0x41 ≤ b && b ≤ 0x5A then b + 0x20 else b

/-- Only ASCII bytes have a lower case. -/
theorem lowerByte_of_high {b : UInt8} (h : 0x80 ≤ b.toNat) : lowerByte b = b := by
  have hcapital : ¬ (decide (0x41 ≤ b) && decide (b ≤ 0x5A)) = true := by
    simp only [Bool.and_eq_true, decide_eq_true_eq, UInt8.le_iff_toNat_le, UInt8.reduceToNat]
    omega
  exact if_neg hcapital

/-- A small letter is an ASCII character and stands for one. -/
theorem toNat_lowerByte_lt_iff {b : UInt8} : (lowerByte b).toNat < 0x80 ↔ b.toNat < 0x80 := by
  have hascii : ∀ n < 0x80, (lowerByte (UInt8.ofNat n)).toNat < 0x80 := by decide +kernel
  constructor
  · intro h
    by_cases hb : b.toNat < 0x80
    · exact hb
    · rwa [lowerByte_of_high (by omega)] at h
  · intro h
    have hb := hascii b.toNat h
    rwa [UInt8.ofNat_toNat] at hb

/-- The bytes of a character give those of its small letter. -/
theorem map_lowerByte_encodeChar (c : Char) :
    (String.utf8EncodeChar c).map lowerByte = String.utf8EncodeChar c.toLower := by
  by_cases h : c.toNat < 0x80
  · have hascii : ∀ n < 0x80, (String.utf8EncodeChar (Char.ofNat n)).map lowerByte =
        String.utf8EncodeChar (Char.ofNat n).toLower := by
      decide +kernel
    have hc := hascii c.toNat h
    rwa [Char.ofNat_toNat] at hc
  · have hcapital : ¬ (c.val ≥ 'A'.val ∧ c.val ≤ 'Z'.val) := by
      rintro ⟨-, hle⟩
      have hnat : c.toNat ≤ 90 := UInt32.le_iff_toNat_le.mp hle
      omega
    have hsame : c.toLower = c := dif_neg hcapital
    rw [hsame, List.map_congr_left fun b hb =>
      lowerByte_of_high (high_of_mem_encodeChar (by omega) hb)]
    exact List.map_id' _

/-- Bytes that give those of a character by small letters are those of a character. -/
theorem exists_encodeChar_of_map_lowerByte {bs : Bytes} {c : Char}
    (h : bs.map lowerByte = String.utf8EncodeChar c) : ∃ d, bs = String.utf8EncodeChar d := by
  by_cases hc : c.toNat < 0x80
  · rw [encodeChar_ascii hc, List.map_eq_singleton_iff] at h
    obtain ⟨b, rfl, hb⟩ := h
    have hascii : b.toNat < 0x80 := by
      rw [← toNat_lowerByte_lt_iff, hb, toNat_byte (by omega)]
      exact hc
    exact ⟨Char.ofNat b.toNat, (encodeChar_byte hascii).symm⟩
  · have hsame : ∀ b ∈ bs, lowerByte b = b := by
      intro b hb
      have hmem : lowerByte b ∈ String.utf8EncodeChar c := h ▸ List.mem_map_of_mem hb
      have hhigh := high_of_mem_encodeChar (by omega) hmem
      have hascii := toNat_lowerByte_lt_iff (b := b)
      exact lowerByte_of_high (by omega)
    refine ⟨c, ?_⟩
    rw [← h, List.map_congr_left hsame, List.map_id']

/-- The bytes of a text give those of the text in small letters. -/
theorem map_lowerByte_encode (s : String) : (encode s).map lowerByte = encode s.toLower := by
  have hchars : s.toLower.toList = s.toList.map Char.toLower := String.toList_map
  rw [encode, encode, hchars, List.map_flatMap, List.flatMap_map]
  simp only [map_lowerByte_encodeChar]

/-- Bytes that give those of a text by small letters are those of a text. -/
theorem exists_encode_of_map_lowerByte {bs : Bytes} {cs : List Char}
    (h : bs.map lowerByte = encode (String.ofList cs)) : ∃ s, bs = encode s := by
  induction cs generalizing bs with
  | nil =>
      rw [String.ofList_nil, encode_empty, List.map_eq_nil_iff] at h
      exact ⟨"", by rw [h, encode_empty]⟩
  | cons c cs ih =>
      rw [encode_ofList_cons, List.map_eq_append_iff] at h
      obtain ⟨first, rest, rfl, hfirst, hrest⟩ := h
      obtain ⟨d, rfl⟩ := exists_encodeChar_of_map_lowerByte hfirst
      obtain ⟨s, rfl⟩ := ih hrest
      refine ⟨String.ofList (d :: s.toList), ?_⟩
      rw [encode_ofList_cons, String.ofList_toList]

/-- No two texts have the same bytes. -/
theorem eq_of_encode_eq {s t : String} (h : encode s = encode t) : s = t := by
  have hs := decode_encode s
  rw [h, decode_encode] at hs
  exact (Option.some.inj hs).symm

/-- **Small letters can be read from the bytes.** -/
theorem map_lowerByte_eq_encode_iff {bs : Bytes} {s : String} :
    bs.map lowerByte = encode s ↔ (decode? bs).map String.toLower = some s := by
  rw [Option.map_eq_some_iff]
  constructor
  · intro h
    have hchars := h
    rw [← String.ofList_toList (s := s)] at hchars
    obtain ⟨t, rfl⟩ := exists_encode_of_map_lowerByte hchars
    refine ⟨t, decode_encode t, eq_of_encode_eq ?_⟩
    rw [← map_lowerByte_encode, h]
  · rintro ⟨t, ht, rfl⟩
    rw [decode?_eq_some_iff.mp ht, map_lowerByte_encode]

end Phrasebook.Utf8
