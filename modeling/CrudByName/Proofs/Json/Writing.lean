import CrudByName.Proofs.Json.Grammar
import CrudByName.Proofs.Json.Members

/-!
# The writer writes by the grammar

Among the many texts of a value, the writer gives one: without blanks, with short escapes where
there are any, and with integers in their canonical digits.  Each of its parts is one of the ways
that the grammar allows (`Quoted.writes_escaped`, `Numeral.writes_signed`, `listed_commaJoined`).

A value without doubles is written as a form that stands for it (`Plain.exists_form`), as long as
its integers fit and it does not nest deeper than a reader goes.
-/

namespace CrudByName

namespace Json

/-! ## Strings -/

namespace Quoted

theorem value?_digit : ∀ n, n < 16 → Hex.value? (Hex.digit n) = some n := by
  decide

/-- The escape of a control character that has no letter. -/
theorem writesChar_control {c : Char} (h : c.toNat < 0x20) :
    WritesChar c (['\\', 'u', '0', '0'] ++ Hex.byte c.toUInt8) := by
  have hbyte : c.toUInt8.toNat = c.toNat := by
    rw [Char.toUInt8, UInt32.toNat_toUInt8]
    exact Nat.mod_eq_of_lt (Nat.lt_trans h (by decide))
  have hunit : WritesUnit c.toNat (['0', '0'] ++ Hex.byte c.toUInt8) := by
    have hhigh := value?_digit (c.toNat / 16) (by omega)
    have hlow := value?_digit (c.toNat % 16) (by omega)
    have hsum : ((0 * 16 + 0) * 16 + c.toNat / 16) * 16 + c.toNat % 16 = c.toNat := by
      omega
    have hmk := WritesUnit.mk (a := '0') (b := '0') (m := 0) (n := 0) (by decide) (by decide)
      hhigh hlow
    rw [hsum] at hmk
    simpa [Hex.byte, hbyte] using hmk
  have hc := WritesChar.unit hunit (by simp [isLowSurrogate]; omega)
    (by simp [isHighSurrogate]; omega)
  rwa [Char.ofNat_toNat] at hc

theorem writesChar_escape (c : Char) : WritesChar c (escape c) := by
  unfold escape
  split_ifs with hquote hbackslash hb hf hn hr ht hcontrol
  · subst hquote
    exact .letter (by decide)
  · subst hbackslash
    exact .letter (by decide)
  · subst hb
    exact .letter (by decide)
  · subst hf
    exact .letter (by decide)
  · subst hn
    exact .letter (by decide)
  · subst hr
    exact .letter (by decide)
  · subst ht
    exact .letter (by decide)
  · exact writesChar_control hcontrol
  · exact .plain (Nat.not_lt.1 hcontrol) hquote hbackslash

theorem writes_escaped (s : List Char) : Writes s (s.flatMap escape) := by
  induction s with
  | nil => exact .nil
  | cons c s ih =>
    rw [List.flatMap_cons]
    exact .cons (writesChar_escape c) ih

end Quoted

/-! ## Integers -/

namespace Numeral

/-- The numeral of an integer. -/
def ofInt (n : Int) : Numeral where
  negative := decide (n < 0)
  whole := Decimal.digits n.natAbs
  fraction := []
  exponent := none

theorem isRun_digits (n : Nat) : IsRun (Decimal.digits n) :=
  ⟨Decimal.digits_ne_nil n, List.all_eq_true.1 (Decimal.all_isDigit_digits n)⟩

/-- Only zero is written with a zero in front. -/
theorem digits_eq_zero_of_head? (n : Nat) (h : (Decimal.digits n).head? = some '0') :
    Decimal.digits n = ['0'] := by
  induction n using Decimal.digits.induct with
  | case1 n hn =>
    rw [Decimal.digits, if_pos hn] at h ⊢
    simpa using h
  | case2 n hn ih =>
    rw [Decimal.digits, if_neg hn,
      List.head?_append_of_ne_nil _ (Decimal.digits_ne_nil (n / 10))] at h
    have hzero : Decimal.ofDigits (Decimal.digits (n / 10)) = 0 := by
      rw [ih h]
      rfl
    rw [Decimal.ofDigits_digits] at hzero
    omega

theorem isWhole_digits (n : Nat) : IsWhole (Decimal.digits n) :=
  ⟨isRun_digits n, digits_eq_zero_of_head? n⟩

theorem writes_signed (n : Int) : (ofInt n).Writes (Decimal.signed n) := by
  have hwrites := Writes.mk (decide (n < 0)) (isWhole_digits n.natAbs) .none .none
  have htext : sign (decide (n < 0)) ++ (Decimal.digits n.natAbs ++ ([] ++ [])) =
      Decimal.signed n := by
    by_cases h : n < 0 <;> simp [sign, Decimal.signed, h]
  rwa [htext] at hwrites

/-- An integer that fits into sixty-four bits is what its numeral stands for. -/
theorem value_ofInt {n : Int} (hlow : -2 ^ 63 ≤ n) (hhigh : n < 2 ^ 63) :
    (ofInt n).value = .ok (.integer n) := by
  have hmagnitude : Decimal.ofDigits (ofInt n).whole = n.natAbs := Decimal.ofDigits_digits n.natAbs
  rw [value, if_pos ⟨rfl, rfl⟩]
  dsimp only
  rw [hmagnitude]
  by_cases hneg : n < 0
  · have hnegative : (ofInt n).negative = true := by simpa [ofInt] using hneg
    have habs : -(n.natAbs : Int) = n := by omega
    rw [if_neg (by simp [hnegative]), if_pos ⟨hnegative, by omega, by omega⟩, habs]
  · have hnegative : (ofInt n).negative = false := by simpa [ofInt] using hneg
    have habs : (n.natAbs : Int) = n := by omega
    rw [if_pos ⟨by simp [hnegative], by simp only [largest]; omega⟩, habs]

end Numeral

/-! ## Lists -/

theorem charsOfItems_eq_map (items : List Json) : charsOfItems items = items.map chars := by
  induction items with
  | nil => rw [charsOfItems, List.map_nil]
  | cons v items ih => rw [charsOfItems, ih, List.map_cons]

theorem charsOfMembers_eq_map (members : List (String × Json)) :
    charsOfMembers members = members.map fun m => quoted m.1.toList ++ ':' :: m.2.chars := by
  induction members with
  | nil => rw [charsOfMembers, List.map_nil]
  | cons m members ih => rw [charsOfMembers, ih, List.map_cons]

theorem separated_commaJoined {P : α → List Char → Prop} {a : α} {as : List α} {t : List Char}
    {parts : List (List Char)} (ha : P a t) (h : List.Forall₂ P as parts) :
    Separated P (a :: as) (commaJoined (t :: parts)) := by
  induction h generalizing a t with
  | nil => simpa [commaJoined] using Separated.last ha blanks_nil
  | cons hb _ ih =>
    rw [commaJoined, List.intercalate_cons_cons, ← commaJoined]
    simpa using Separated.cons ha blanks_nil blanks_nil (ih hb)

theorem listed_commaJoined {P : α → List Char → Prop} {as : List α} {parts : List (List Char)}
    (h : List.Forall₂ P as parts) : Listed P as (commaJoined parts) := by
  cases h with
  | nil => exact .none blanks_nil
  | cons ha h => exact .some blanks_nil (separated_commaJoined ha h)

theorem writesMember_quoted {P : α → List Char → Prop} {a : α} {t : List Char} (name : String)
    (h : P a t) : WritesMember P (name, a) (quoted name.toList ++ ':' :: t) := by
  have hwrites := WritesMember.mk (Quoted.writes_escaped name.toList) blanks_nil blanks_nil h
  simpa [quoted] using hwrites

/-! ## Values -/

namespace Form

section

variable {depth : Nat}

theorem json?_array {fs : List Form} {items : List Json}
    (h : List.Forall₂ (fun f j => f.json? depth = some j) fs items) :
    (array fs).json? (depth + 1) = some (.array items) := by
  rw [json?, List.mapM_eq_some_iff.2 h, Option.map_some]

theorem json?_object {ms : List (String × Form)} {members : List (String × Json)}
    (h : List.Forall₂ (Named fun f j => f.json? depth = some j) ms members) :
    (object ms).json? (depth + 1) = some (.object members) := by
  have hmembers : (ms.mapM fun (m : String × Form) =>
      (m.2.json? depth).map fun j => (m.1, j)) = some members := by
    refine List.mapM_eq_some_iff.2 (h.imp fun m n hm => ?_)
    rw [hm.value, hm.name, Option.map_some]
  rw [json?, hmembers, Option.map_some]

end

end Form

/-- Null, a boolean, a text, an integer of sixty-four bits, or a list or an object of such values,
with no more than `depth` containers open at once. -/
inductive Plain : Nat → Json → Prop where
  | null {depth : Nat} : Plain depth null
  | bool {depth : Nat} (b : Bool) : Plain depth (bool b)
  | integer {depth : Nat} {n : Int} (low : -2 ^ 63 ≤ n) (high : n < 2 ^ 63) :
      Plain depth (number (.integer n))
  | string {depth : Nat} (s : String) : Plain depth (string s)
  | array {depth : Nat} {items : List Json} (h : ∀ j ∈ items, Plain depth j) :
      Plain (depth + 1) (array items)
  | object {depth : Nat} {members : List (String × Json)} (h : ∀ m ∈ members, Plain depth m.2) :
      Plain (depth + 1) (object members)

theorem Plain.exists_form {depth : Nat} {j : Json} (h : Plain depth j) :
    ∃ f : Form, f.Writes j.chars ∧ f.json? depth = some j := by
  induction h with
  | null => exact ⟨.null, by rw [chars]; exact .null, by rw [Form.json?]⟩
  | bool b =>
    refine ⟨.bool b, ?_, by rw [Form.json?]⟩
    cases b
    · rw [chars]
      exact .false
    · rw [chars]
      exact .true
  | @integer _ n low high =>
    refine ⟨.number (.ofInt n), ?_, ?_⟩
    · rw [chars]
      exact .number (Numeral.writes_signed n)
    · rw [Form.json?, Form.number?, Numeral.value_ofInt low high]
      rfl
  | string s =>
    refine ⟨.string s, ?_, by rw [Form.json?]⟩
    rw [chars]
    exact .string (Quoted.writes_escaped s.toList)
  | @array _ items _ ih =>
    obtain ⟨fs, hfs⟩ := List.exists_forall₂ ih
    refine ⟨.array fs, ?_, Form.json?_array (hfs.imp fun _ _ hf => hf.2).flip⟩
    have hparts : List.Forall₂ Form.Writes fs (charsOfItems items) := by
      rw [charsOfItems_eq_map, List.forall₂_map_right_iff]
      exact (hfs.imp fun _ _ hf => hf.1).flip
    rw [chars]
    exact .array (listed_commaJoined hparts)
  | @object depth members _ ih =>
    obtain ⟨ms, hms⟩ :=
      exists_named (R := fun j (f : Form) => f.Writes j.chars ∧ f.json? depth = some j) ih
    have hjson : List.Forall₂ (Named fun f j => f.json? depth = some j) ms members :=
      hms.flip.imp fun _ _ hm => ⟨hm.name.symm, hm.value.2⟩
    refine ⟨.object ms, ?_, Form.json?_object hjson⟩
    have hparts : List.Forall₂ (WritesMember Form.Writes) ms (charsOfMembers members) := by
      rw [charsOfMembers_eq_map, List.forall₂_map_right_iff]
      refine hms.flip.imp fun n m hm => ?_
      rw [hm.name]
      exact writesMember_quoted n.1 hm.value.1
    rw [chars]
    exact .object (listed_commaJoined hparts)

end Json

end CrudByName
