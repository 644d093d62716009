import Mathlib.Data.List.Basic

/-!
# Bytes of text

Which bytes are the UTF-8 of a text.  `IsChar` lists the bytes of one character by the bounds of its
first byte, with the exceptions for the second: a first byte that could begin a shorter form goes on
higher up, the one that could begin a surrogate goes on lower down, and so does the one that could
lead beyond the last character.  `IsText` is one such piece after the other.

These bounds are another description of the bytes than the encoding, which goes from a character to
its bytes by division.  Both describe the same: the bytes of a character are within the bounds
(`isChar_utf8EncodeChar`), and what is within the bounds are the bytes of the character that is put
together from them (`exists_char_of_isChar`).  So bytes are valid exactly if they are `IsText`
(`isValidUTF8_iff`).

A byte of ASCII is never a part of a longer character (`toNat_eq_of_mem`).
-/

namespace CrudByName

namespace Utf8

/-- A byte from `low` to `high`, both included. -/
def Within (low high : Nat) (b : UInt8) : Prop :=
  low ≤ b.toNat ∧ b.toNat ≤ high

/-- A byte that goes on with a character. -/
abbrev Continues (b : UInt8) : Prop :=
  Within 0x80 0xBF b

/-- The bytes of one character. -/
inductive IsChar : List UInt8 → Prop where
  | one {a : UInt8} (first : Within 0x00 0x7F a) : IsChar [a]
  | two {a b : UInt8} (first : Within 0xC2 0xDF a) (second : Continues b) : IsChar [a, b]
  | three {a b c : UInt8} (first : Within 0xE0 0xEF a) (second : Continues b) (third : Continues c)
      (notShorter : a.toNat = 0xE0 → 0xA0 ≤ b.toNat)
      (notSurrogate : a.toNat = 0xED → b.toNat ≤ 0x9F) : IsChar [a, b, c]
  | four {a b c d : UInt8} (first : Within 0xF0 0xF4 a) (second : Continues b)
      (third : Continues c) (fourth : Continues d)
      (notShorter : a.toNat = 0xF0 → 0x90 ≤ b.toNat)
      (notBeyond : a.toNat = 0xF4 → b.toNat ≤ 0x8F) : IsChar [a, b, c, d]

/-- The bytes of a text: those of its characters, one after the other. -/
inductive IsText : List UInt8 → Prop where
  | nil : IsText []
  | cons {char rest : List UInt8} (first : IsChar char) (more : IsText rest) :
      IsText (char ++ rest)

/-! ## One character -/

theorem isChar_utf8EncodeChar (c : Char) : IsChar (String.utf8EncodeChar c) := by
  have hvalid : c.val.toNat < 0xD800 ∨ 0xDFFF < c.val.toNat ∧ c.val.toNat < 0x110000 := c.valid
  unfold String.utf8EncodeChar
  generalize c.val.toNat = v at hvalid
  dsimp only
  split_ifs with h1 h2 h3
  · apply IsChar.one
    simp only [Within, UInt8.toNat_ofNat']
    omega
  · apply IsChar.two <;> simp only [Within, UInt8.toNat_ofNat'] <;> omega
  · apply IsChar.three <;> simp only [Within, UInt8.toNat_ofNat'] <;> omega
  · apply IsChar.four <;> simp only [Within, UInt8.toNat_ofNat'] <;> omega

theorem val_ofNat {n : Nat} (h : n.isValidChar) : (Char.ofNat n).val.toNat = n := by
  rw [Char.ofNat, dif_pos h]
  rfl

theorem exists_char_of_isChar {bytes : List UInt8} (h : IsChar bytes) :
    ∃ c : Char, String.utf8EncodeChar c = bytes := by
  cases h with
  | @one a first =>
    obtain ⟨-, ha⟩ := first
    refine ⟨Char.ofNat a.toNat, ?_⟩
    rw [String.utf8EncodeChar, val_ofNat (Or.inl (by omega))]
    rw [if_pos ha, UInt8.ofNat_toNat]
  | @two a b first second =>
    obtain ⟨ha, ha'⟩ := first
    obtain ⟨hb, hb'⟩ := second
    refine ⟨Char.ofNat ((a.toNat - 0xC0) * 64 + (b.toNat - 0x80)), ?_⟩
    rw [String.utf8EncodeChar, val_ofNat (Or.inl (by omega))]
    rw [if_neg (by omega), if_pos (by omega)]
    simp only [List.cons.injEq, ← UInt8.toNat_inj, UInt8.toNat_ofNat', and_true]
    omega
  | @three a b c first second third notShorter notSurrogate =>
    obtain ⟨ha, ha'⟩ := first
    obtain ⟨hb, hb'⟩ := second
    obtain ⟨hc, hc'⟩ := third
    refine ⟨Char.ofNat
      ((a.toNat - 0xE0) * 4096 + (b.toNat - 0x80) * 64 + (c.toNat - 0x80)), ?_⟩
    rw [String.utf8EncodeChar, val_ofNat (by unfold Nat.isValidChar; omega)]
    rw [if_neg (by omega), if_neg (by omega), if_pos (by omega)]
    simp only [List.cons.injEq, ← UInt8.toNat_inj, UInt8.toNat_ofNat', and_true]
    omega
  | @four a b c d first second third fourth notShorter notBeyond =>
    obtain ⟨ha, ha'⟩ := first
    obtain ⟨hb, hb'⟩ := second
    obtain ⟨hc, hc'⟩ := third
    obtain ⟨hd, hd'⟩ := fourth
    refine ⟨Char.ofNat ((a.toNat - 0xF0) * 262144 + (b.toNat - 0x80) * 4096 +
      (c.toNat - 0x80) * 64 + (d.toNat - 0x80)), ?_⟩
    rw [String.utf8EncodeChar, val_ofNat (by unfold Nat.isValidChar; omega)]
    rw [if_neg (by omega), if_neg (by omega), if_neg (by omega)]
    simp only [List.cons.injEq, ← UInt8.toNat_inj, UInt8.toNat_ofNat', and_true]
    omega

/-- A byte of ASCII is a character of its own, and no part of another one. -/
theorem toNat_eq_of_mem {c : Char} {b : UInt8} (h : b ∈ String.utf8EncodeChar c)
    (hb : b.toNat < 0x80) : c.val.toNat = b.toNat := by
  unfold String.utf8EncodeChar at h
  generalize c.val.toNat = v at h
  dsimp only at h
  split_ifs at h with h1 h2 h3
  · rw [List.mem_singleton.1 h, UInt8.toNat_ofNat']
    omega
  -- The bytes of a longer character are none of ASCII.
  all_goals
    simp only [List.mem_cons, List.not_mem_nil, or_false] at h
    rcases h with rfl | rfl | rfl | rfl <;> simp only [UInt8.toNat_ofNat'] at hb <;> omega

/-! ## A whole text -/

theorem isText_flatMap (s : List Char) : IsText (s.flatMap String.utf8EncodeChar) := by
  induction s with
  | nil => exact .nil
  | cons c s ih => exact .cons (isChar_utf8EncodeChar c) ih

theorem exists_chars_of_isText {bytes : List UInt8} (h : IsText bytes) :
    ∃ s : List Char, s.flatMap String.utf8EncodeChar = bytes := by
  induction h with
  | nil => exact ⟨[], rfl⟩
  | cons first _ ih =>
    obtain ⟨c, rfl⟩ := exists_char_of_isChar first
    obtain ⟨s, rfl⟩ := ih
    exact ⟨c :: s, rfl⟩

theorem isValidUTF8_iff (bytes : ByteArray) : bytes.IsValidUTF8 ↔ IsText bytes.data.toList := by
  constructor
  · rintro ⟨s, rfl⟩
    rw [List.utf8Encode, List.data_toByteArray]
    exact isText_flatMap s
  · intro h
    obtain ⟨s, hs⟩ := exists_chars_of_isText h
    refine ⟨s, ByteArray.ext ?_⟩
    rw [List.utf8Encode, List.data_toByteArray, hs, Array.toArray_toList]

end Utf8

end CrudByName
