import CrudByName.Decimal.Stepwise
import Mathlib.Tactic.Common

/-!
# Doubles that are numbers

A double that is no number differs from itself, so a cell that held one could never be found again.
None comes out of the conversions: the bits that `Binary64.nearestBits` gives are at most those of
infinity, and a sign changes nothing (`isNaN_neg`).  `isNaN_ofInt` and `isNaN_stepwiseFloat` say so
of an integer and of the text of a number.  Every other double is equal to itself
(`beq_self_of_not_isNaN`).
-/

namespace CrudByName

namespace Binary64

open Float.Model (UnpackedFloat)
open Float.Model.Format (binary64)

/-! ## Packing and signs -/

/-- Only with all bits of its exponent set a double is no number. -/
theorem isNaN_of_unpackExponent {b : BitVec binary64.numBits}
    (h : UnpackedFloat.unpackExponent b ≠ -BitVec.ofNat binary64.exponentBits 1) :
    (UnpackedFloat.unpack binary64 b).isNaN = false := by
  unfold UnpackedFloat.unpack
  dsimp only
  rw [if_neg h]
  by_cases hexponent : UnpackedFloat.unpackExponent b = BitVec.ofNat binary64.exponentBits 0
  · rw [if_pos hexponent]
    by_cases hmantissa :
        UnpackedFloat.unpackMantissa b = BitVec.ofNat binary64.mantissaBitsWithoutImplicit 0
    · rw [dif_pos hmantissa]
      rfl
    · rw [dif_neg hmantissa]
      rfl
  · rw [if_neg hexponent]
    rfl

theorem isNaN_pack (u : UnpackedFloat) : (Float.Model.pack u).isNaN = u.isNaN := by
  show (UnpackedFloat.unpack binary64 (UnpackedFloat.pack binary64 u)).isNaN = u.isNaN
  cases u with
  | notANumber => rfl
  | infinity s => cases s <;> rfl
  | zero s => cases s <;> rfl
  | finite s m e hm =>
    show _ = false
    delta UnpackedFloat.pack
    dsimp only
    split
    · cases s <;> rfl
    · rename_i hsmall
      split
      · apply isNaN_of_unpackExponent
        rw [UnpackedFloat.unpackExponent_packComponents]
        intro h
        have hbits := congrArg BitVec.toNat h
        simp [binary64] at hbits hsmall
        omega
      · apply isNaN_of_unpackExponent
        rw [UnpackedFloat.unpackExponent_packComponents]
        decide

theorem isNaN_neg (x : Float) : (-x).isNaN = x.isNaN := by
  show (Float.Model.pack x.toModel.unpack.neg).isNaN = x.toModel.unpack.isNaN
  rw [isNaN_pack]
  cases x.toModel.unpack <;> rfl

theorem isNaN_signed (negative : Bool) {x : Float} (h : x.isNaN = false) :
    (if negative then -x else x).isNaN = false := by
  split
  · rw [isNaN_neg, h]
  · exact h

/-! ## Conversions -/

theorem isNaN_ofBits {n : Nat} (h : n ≤ infinityBits) :
    (Float.ofBits (UInt64.ofNat n)).isNaN = false := by
  show (Float.Model.pack (UnpackedFloat.unpack binary64 (BitVec.ofNat 64 n))).isNaN = false
  rw [isNaN_pack]
  by_cases hinf : n = infinityBits
  · subst hinf
    decide
  · have hbelow : n < 2047 * 2 ^ 52 := Nat.lt_of_le_of_ne h hinf
    have hnat : (BitVec.ofNat 64 n).toNat = n := by
      rw [BitVec.toNat_ofNat]
      omega
    apply isNaN_of_unpackExponent
    intro hexponent
    have hfield : (BitVec.ofNat 64 n).toNat >>> 52 % 2 ^ 11 = 2 ^ 11 - 1 :=
      congrArg BitVec.toNat hexponent
    rw [hnat, Nat.shiftRight_eq_div_pow] at hfield
    omega

theorem nearestBits_le (n : Nat) (exponent : Int) : nearestBits n exponent ≤ infinityBits := by
  unfold nearestBits
  split
  · exact Nat.zero_le _
  · exact Nat.min_le_right _ _

theorem isNaN_ofBinary (n : Nat) (exponent : Int) : (ofBinary n exponent).isNaN = false :=
  isNaN_ofBits (nearestBits_le n exponent)

theorem isNaN_infinity : infinity.isNaN = false :=
  isNaN_ofBits (Nat.le_refl _)

theorem isNaN_ofInt (n : Int) : (ofInt n).isNaN = false := by
  unfold ofInt ofDecimal
  apply isNaN_signed
  split
  · exact isNaN_ofBinary _ _
  · exact isNaN_ofBinary _ _

theorem isNaN_stepwiseFloat (negative : Bool) (whole fraction : List Char) (exponent : Int) :
    (Decimal.stepwiseFloat negative whole fraction exponent).isNaN = false := by
  unfold Decimal.stepwiseFloat
  apply isNaN_signed
  split
  · decide
  · dsimp only
    split
    · exact isNaN_infinity
    · exact isNaN_ofBinary _ _

/-! ## Equality -/

theorem compare_self {u : UnpackedFloat} (h : u.isNaN = false) : u.compare u = some .eq := by
  cases u with
  | notANumber => cases h
  | infinity s => cases s <;> rfl
  | zero s => rfl
  | finite s m e hm =>
    have hsame : (compare e e).then (compare m m) = .eq := by simp
    cases s with
    | positive => exact congrArg some hsame
    | negative => exact congrArg (fun o : Ordering => some o.swap) hsame

theorem beq_self_of_not_isNaN {x : Float} (h : x.isNaN = false) : (x == x) = true := by
  show (x.toModel.unpack.compare x.toModel.unpack == some .eq) = true
  rw [compare_self (u := x.toModel.unpack) h]
  rfl

end Binary64

end CrudByName
