import CrudByName.Proofs.Database.Cells
import CrudByName.Proofs.Text.Utf8

/-!
# Values in cells

A value is bound as a cell and a cell is read as a value, by two functions that know nothing of each
other.  Reading undoes binding (`toValue_ofValue`), but for truth values, of which a database keeps
a number.

The other way round there is one kind of cell that needs care.  The bytes of a text may be any, and
only those that are UTF-8 make a value that is text.  The others are shown as bytes, so that none of
them is lost: a cell of text can always be told from its value (`toValue_text_inj`).  Which bytes
are which is said by their bounds (`Utf8.IsText`), and not by the encoding of some text.
-/

namespace CrudByName

namespace Database

namespace Cell

/-! ## Reading what was bound -/

theorem toValue_ofValue {v : Value} (h : ∀ b, v ≠ .boolean b) : (ofValue v).toValue = v := by
  cases v with
  | null => rfl
  | integer n => rfl
  | real x => rfl
  | text s => exact toValue_text s
  | boolean b => exact absurd rfl (h b)
  | blob bytes => rfl

/-! ## Text and bytes -/

section

variable {bytes other : ByteArray} {s : String}

theorem toValue_text_eq_text_iff : (text bytes).toValue = .text s ↔ s.toUTF8 = bytes := by
  constructor
  · intro h
    by_cases hvalid : bytes.IsValidUTF8
    · rw [toValue_text_of_valid hvalid] at h
      cases h
      rfl
    · rw [toValue_text_of_not_valid hvalid] at h
      cases h
  · rintro rfl
    exact toValue_text s

theorem toValue_text_eq_blob_iff :
    (text bytes).toValue = .blob other ↔ other = bytes ∧ ¬ bytes.IsValidUTF8 := by
  by_cases hvalid : bytes.IsValidUTF8
  · rw [toValue_text_of_valid hvalid]
    simp [hvalid]
  · rw [toValue_text_of_not_valid hvalid]
    simp [hvalid, eq_comm]

/-- The bytes of a text are found in its value, as what the text encodes to or as they are. -/
theorem toValue_text_inj : (text bytes).toValue = (text other).toValue ↔ bytes = other := by
  constructor
  · intro h
    cases hother : (text other).toValue with
    | text s =>
      rw [hother] at h
      rw [← toValue_text_eq_text_iff.1 h, toValue_text_eq_text_iff.1 hother]
    | blob kept =>
      rw [hother] at h
      rw [← (toValue_text_eq_blob_iff.1 h).1, (toValue_text_eq_blob_iff.1 hother).1]
    | null | integer | real | boolean =>
      simp only [toValue] at hother
      split at hother <;> cases hother
  · rintro rfl
    rfl

end

/-- A value that is bound reads as itself, a truth value as a number; and a cell of text reads as
text if its bytes are, as bytes if they are not, and never as another one. -/
theorem cells_lose_nothing (v : Value) (bytes : ByteArray) :
    ((∀ b, v ≠ .boolean b) → (ofValue v).toValue = v) ∧
    (∀ b, (ofValue (.boolean b)).toValue = .integer (if b then 1 else 0)) ∧
    (∀ s, (text bytes).toValue = .text s ↔ s.toUTF8 = bytes) ∧
    ((∃ s, (text bytes).toValue = .text s) ↔ Utf8.IsText bytes.data.toList) ∧
    (∀ kept, (text bytes).toValue = .blob kept ↔
      kept = bytes ∧ ¬ Utf8.IsText bytes.data.toList) ∧
    ∀ other, (text bytes).toValue = (text other).toValue ↔ bytes = other := by
  refine ⟨toValue_ofValue, fun b => rfl, fun s => toValue_text_eq_text_iff, ?_, fun kept => ?_,
    fun other => toValue_text_inj⟩
  · rw [← Utf8.isValidUTF8_iff]
    constructor
    · rintro ⟨s, hs⟩
      rw [← toValue_text_eq_text_iff.1 hs]
      exact s.isValidUTF8
    · intro hvalid
      exact ⟨_, toValue_text_of_valid hvalid⟩
  · rw [← Utf8.isValidUTF8_iff]
    exact toValue_text_eq_blob_iff

/-- A text with a character zero in it, and the bytes that a surrogate would have. -/
theorem cells_lose_nothing_surrogate :
    (∀ b, Value.text "\u0000ü" ≠ .boolean b) ∧
      (ofValue (.text "\u0000ü")).toValue = .text "\u0000ü" ∧
      (text ⟨#[0xED, 0xA0, 0x80]⟩).toValue = .blob ⟨#[0xED, 0xA0, 0x80]⟩ ∧
      ¬ Utf8.IsText [0xED, 0xA0, 0x80] := by
  have hvalue : ∀ b, Value.text "\u0000ü" ≠ .boolean b := fun b => by simp
  have hblob : (text ⟨#[0xED, 0xA0, 0x80]⟩).toValue = .blob ⟨#[0xED, 0xA0, 0x80]⟩ := by
    decide +kernel
  obtain ⟨hback, -, -, -, hkept, -⟩ :=
    cells_lose_nothing (.text "\u0000ü") ⟨#[0xED, 0xA0, 0x80]⟩
  exact ⟨hvalue, hback hvalue, hblob, ((hkept _).1 hblob).2⟩

end Cell

end Database

end CrudByName
