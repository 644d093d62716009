import CrudByName.Database.Table
import CrudByName.Proofs.Decimal.NotANumber

/-!
# Cells that are found again

What a column holds has been converted on its way in, and what is looked for in it is converted on
the way there.  `Affinity.Keeps` says of a cell that a column can hold it: a lookup in that column
would not convert it any more, and it is not the double that is no number.  Every cell that a column
has stored is of that kind (`keeps_store`).

So a value that was read from a column goes back into the cell it came from, and finds it
(`equals_probe_toValue`).  There are two exceptions, which `Cell.ReadsBack` leaves out: null equals
nothing, and text that is not valid UTF-8 is read as bytes, which no text equals.
-/

namespace CrudByName

namespace Database

namespace Cell

/-! ## Values in and out -/

/-- A cell whose value goes back into it: neither null nor text that is not valid UTF-8. -/
def ReadsBack : Cell → Prop
  | null => False
  | text bytes => bytes.IsValidUTF8
  | integer _ | real _ | blob _ => True

theorem toValue_text_of_valid {bytes : ByteArray} (h : bytes.IsValidUTF8) :
    (text bytes).toValue = .text (String.fromUTF8 bytes h) := by
  rw [toValue, String.fromUTF8?, dif_pos h]

theorem toValue_text_of_not_valid {bytes : ByteArray} (h : ¬ bytes.IsValidUTF8) :
    (text bytes).toValue = .blob bytes := by
  rw [toValue, String.fromUTF8?, dif_neg h]

theorem toValue_text (s : String) : (text s.toUTF8).toValue = .text s :=
  toValue_text_of_valid s.isValidUTF8

theorem ofValue_toValue {c : Cell} (h : c.ReadsBack) : ofValue c.toValue = c := by
  cases c with
  | null => exact h.elim
  | text bytes => rw [toValue_text_of_valid h]; rfl
  | integer n => rfl
  | real x => rfl
  | blob bytes => rfl

@[simp]
theorem settled_settled (c : Cell) : c.settled.settled = c.settled := by
  cases c with
  | real x =>
    by_cases h : x.isNaN = true
    · have hnull : (real x).settled = null := if_pos h
      rw [hnull]
      rfl
    · have hsame : (real x).settled = real x := if_neg h
      rw [hsame, hsame]
  | _ => rfl

theorem not_isNaN_of_settled {x : Float} (h : (real x).settled = real x) : x.isNaN = false := by
  by_contra hnan
  rw [settled, if_pos (by simpa using hnan)] at h
  cases h

/-- Apart from null, a settled cell equals itself. -/
theorem equals_self {c : Cell} (h : c.settled = c) (hnull : c ≠ null) : c.equals c = true := by
  cases c with
  | null => exact absurd rfl hnull
  | integer n => exact beq_self_eq_true n
  | real x => exact Binary64.beq_self_of_not_isNaN (not_isNaN_of_settled h)
  | text bytes => exact beq_self_eq_true bytes.data
  | blob bytes => exact beq_self_eq_true bytes.data

/-! ## Numbers -/

/-- An integer or a double that is a number. -/
def IsNumber : Cell → Prop
  | integer _ => True
  | real x => x.isNaN = false
  | null | text _ | blob _ => False

theorem IsNumber.settled_eq {c : Cell} (h : c.IsNumber) : c.settled = c := by
  cases c with
  | integer n => rfl
  | real x =>
    have hnumber : x.isNaN = false := h
    rw [settled, hnumber]
    rfl
  | null => exact h.elim
  | text bytes => exact h.elim
  | blob bytes => exact h.elim

theorem IsNumber.numeric_eq {c : Cell} (h : c.IsNumber) : c.numeric = c := by
  cases c with
  | text bytes => exact h.elim
  | _ => rfl

theorem IsNumber.integral {c : Cell} (h : c.IsNumber) : c.integral.IsNumber := by
  cases c with
  | real x =>
    rw [Cell.integral]
    split
    · exact trivial
    · exact h
  | integer n => exact trivial
  | null => exact h.elim
  | text bytes => exact h.elim
  | blob bytes => exact h.elim

theorem isNumber_number (p : NumberText.Parts) : p.number.IsNumber := by
  rw [NumberText.Parts.number]
  split
  · exact trivial
  · exact Binary64.isNaN_stepwiseFloat _ _ _ _

/-- The number that a text is, is a number. -/
theorem isNumber_of_read {bytes : ByteArray} {c : Cell} (h : NumberText.read bytes = some c) :
    c.IsNumber := by
  obtain ⟨p, -, rfl⟩ := Option.map_eq_some_iff.1 h
  exact (isNumber_number p).integral

/-- What becomes of a cell in a column of numbers: a number, or what it was before. -/
theorem isNumber_or_eq {c : Cell} (h : c.settled = c) :
    c.numeric.integral.IsNumber ∨ c.numeric.integral = c ∧ c.numeric = c := by
  cases c with
  | null => exact .inr ⟨rfl, rfl⟩
  | integer n => exact .inl trivial
  | real x =>
    have hnumber : (real x).IsNumber := not_isNaN_of_settled h
    exact .inl hnumber.integral
  | text bytes =>
    cases hread : NumberText.read bytes with
    | none =>
      have hnumeric : (text bytes).numeric = text bytes := by rw [numeric, hread]; rfl
      exact .inr ⟨by rw [hnumeric]; rfl, hnumeric⟩
    | some n =>
      have hnumeric : (text bytes).numeric = n := by rw [numeric, hread]; rfl
      exact .inl (by rw [hnumeric]; exact (isNumber_of_read hread).integral)
  | blob bytes => exact .inr ⟨rfl, rfl⟩

end Cell

/-! ## What a column holds -/

namespace Affinity

/-- A cell that a column can hold. -/
def Keeps (a : Affinity) (c : Cell) : Prop :=
  a.probe c = c ∧ c.settled = c

/-- A column that takes text as numbers leaves a number alone. -/
theorem probe_of_isNumber {a : Affinity} (ha : a = .integer ∨ a = .numeric ∨ a = .real) {c : Cell}
    (h : c.IsNumber) : a.probe c = c := by
  rcases ha with rfl | rfl | rfl <;> exact h.numeric_eq

theorem keeps_of_isNumber {a : Affinity} (ha : a = .integer ∨ a = .numeric ∨ a = .real) {c : Cell}
    (h : c.IsNumber) : a.Keeps c :=
  ⟨probe_of_isNumber ha h, h.settled_eq⟩

/-- A column holds a cell that it has made a number, or left as it was. -/
theorem keeps_integral {a : Affinity} (ha : a = .integer ∨ a = .numeric ∨ a = .real) {c : Cell}
    (h : c.settled = c) : a.Keeps c.numeric.integral := by
  rcases Cell.isNumber_or_eq h with hnumber | ⟨hsame, hnumeric⟩
  · exact keeps_of_isNumber ha hnumber
  · have hprobe : a.probe c = c := by
      rcases ha with rfl | rfl | rfl <;> exact hnumeric
    rw [hsame]
    exact ⟨hprobe, h⟩

/-- A column holds what it has stored. -/
theorem keeps_store (a : Affinity) {c : Cell} (h : c.settled = c) : a.Keeps (a.store c) := by
  cases a with
  | integer => exact keeps_integral (.inl rfl) h
  | numeric => exact keeps_integral (.inr (.inl rfl)) h
  | real =>
    have hreal : real = .integer ∨ real = .numeric ∨ real = .real := .inr (.inr rfl)
    rw [store]
    split
    · rename_i n _
      exact keeps_of_isNumber hreal (c := .real _) (Binary64.isNaN_ofInt n.toInt)
    · exact keeps_integral hreal h
  | text =>
    cases c with
    | real x => exact ⟨rfl, rfl⟩
    | null => exact ⟨rfl, rfl⟩
    | integer n => exact ⟨rfl, rfl⟩
    | text bytes => exact ⟨rfl, rfl⟩
    | blob bytes => exact ⟨rfl, rfl⟩
  | blob => exact ⟨rfl, h⟩

/-- Bytes are never converted. -/
theorem probe_blob (a : Affinity) (bytes : ByteArray) : a.probe (.blob bytes) = .blob bytes := by
  cases a <;> rfl

theorem probe_null (a : Affinity) : a.probe .null = .null := by
  cases a <;> rfl

/-- The value that is read from a column finds its cell, unless that does not read back. -/
theorem equals_probe_toValue {a : Affinity} {c : Cell} (h : a.Keeps c) :
    (a.probe (Cell.ofValue c.toValue).settled).equals c = true ↔ c.ReadsBack := by
  obtain ⟨hprobe, hsettled⟩ := h
  constructor
  · intro hequals
    cases c with
    | null =>
      rw [Cell.equals_null] at hequals
      cases hequals
    | text bytes =>
      by_contra hvalid
      have hblob : (Cell.blob bytes).settled = Cell.blob bytes := rfl
      rw [Cell.toValue_text_of_not_valid hvalid, Cell.ofValue, hblob, probe_blob] at hequals
      cases hequals
    | integer n => exact trivial
    | real x => exact trivial
    | blob bytes => exact trivial
  · intro hreads
    have hnull : c ≠ .null := by
      rintro rfl
      exact hreads
    rw [Cell.ofValue_toValue hreads, hsettled, hprobe]
    exact Cell.equals_self hsettled hnull

end Affinity

end Database

end CrudByName
