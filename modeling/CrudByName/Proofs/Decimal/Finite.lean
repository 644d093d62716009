import CrudByName.Proofs.Decimal.NotANumber

/-!
# Finite doubles

A double is finite unless all bits of its exponent are set.  That is how its bits are read here
(`Binary64.view`), and it is the same as the core notion (`isFinite_eq`), which unpacks the double
first (`isFinite_unpack_iff`).

A sign does not change it (`isFinite_neg`).  Negation packs the unpacked double again, and packing
gives an infinity where the exponent is too large; but no exponent that was unpacked is
(`unpack_cases`, `isFinite_pack`).
-/

namespace CrudByName

namespace Binary64

open Float.Model (UnpackedFloat)
open Float.Model.Format (binary64)

/-! ## Packing -/

/-- What a double is unpacked to depends on the field of its exponent.  The exponent of a finite one
leaves room below the field that is kept for the others. -/
theorem unpack_cases (b : BitVec binary64.numBits) :
    ((UnpackedFloat.unpackExponent b).toNat = 2047 ∧
      (UnpackedFloat.unpack binary64 b).isFinite = false) ∨
    ((UnpackedFloat.unpackExponent b).toNat ≠ 2047 ∧
      (UnpackedFloat.unpack binary64 b).isFinite = true ∧
      ∀ s m e hm, UnpackedFloat.unpack binary64 b = .finite s m e hm → e ≤ 971) := by
  have hall : UnpackedFloat.unpackExponent b = -BitVec.ofNat binary64.exponentBits 1 ↔
      (UnpackedFloat.unpackExponent b).toNat = 2047 := by
    rw [← BitVec.toNat_inj]
    rfl
  have hbias :
      (binary64.exponentBias : Int) + (binary64.mantissaBitsWithoutImplicit : Nat) = 1075 :=
    rfl
  have hlt : @BitVec.toNat 11 (UnpackedFloat.unpackExponent b) < 2048 := BitVec.isLt _
  unfold UnpackedFloat.unpack
  dsimp only
  rw [hbias]
  by_cases hexponent : UnpackedFloat.unpackExponent b = -BitVec.ofNat binary64.exponentBits 1
  · refine .inl ⟨hall.1 hexponent, ?_⟩
    rw [if_pos hexponent]
    by_cases hmantissa :
        UnpackedFloat.unpackMantissa b = BitVec.ofNat binary64.mantissaBitsWithoutImplicit 0
    · rw [if_pos hmantissa]
      rfl
    · rw [if_neg hmantissa]
      rfl
  · have hne : @BitVec.toNat 11 (UnpackedFloat.unpackExponent b) ≠ 2047 := mt hall.2 hexponent
    refine .inr ⟨hne, ?_⟩
    rw [if_neg hexponent]
    by_cases hzero : UnpackedFloat.unpackExponent b = BitVec.ofNat binary64.exponentBits 0
    · rw [if_pos hzero]
      by_cases hmantissa :
          UnpackedFloat.unpackMantissa b = BitVec.ofNat binary64.mantissaBitsWithoutImplicit 0
      · rw [dif_pos hmantissa]
        exact ⟨rfl, nofun⟩
      · -- A subnormal double: the exponent is the least.
        rw [dif_neg hmantissa]
        refine ⟨rfl, fun s m e hm hfinite => ?_⟩
        injection hfinite with _ _ he
        rw [← he, hzero]
        decide
    · rw [if_neg hzero]
      refine ⟨rfl, fun s m e hm hfinite => ?_⟩
      injection hfinite with _ _ he
      omega

theorem isFinite_unpack_iff {b : BitVec binary64.numBits} :
    (UnpackedFloat.unpack binary64 b).isFinite = true ↔
      (UnpackedFloat.unpackExponent b).toNat ≠ 2047 := by
  rcases unpack_cases b with ⟨hfield, hnot⟩ | ⟨hfield, hfinite, -⟩
  · rw [hnot]
    exact iff_of_false Bool.false_ne_true (not_not.2 hfield)
  · exact iff_of_true hfinite hfield

theorem le_of_unpack {b : BitVec binary64.numBits} {s : UnpackedFloat.Sign} {m : Nat}
    {e : Int} {hm : 0 < m} (h : UnpackedFloat.unpack binary64 b = .finite s m e hm) : e ≤ 971 := by
  rcases unpack_cases b with ⟨-, hnot⟩ | ⟨-, -, hle⟩
  · rw [h] at hnot
    cases hnot
  · exact hle s m e hm h

theorem isFinite_pack {s : UnpackedFloat.Sign} {m : Nat} {e : Int} {hm : 0 < m} (h : e ≤ 971) :
    (Float.Model.pack (.finite s m e hm)).isFinite = true := by
  apply isFinite_unpack_iff.2
  show (UnpackedFloat.unpackExponent (UnpackedFloat.pack binary64 (.finite s m e hm))).toNat ≠ 2047
  have hbias : (binary64.exponentBias : Int) = 1023 := rfl
  have hwidth : (binary64.mantissaBitsWithoutImplicit : Int) = 52 := rfl
  have hroom : (2 : Nat) ^ binary64.exponentBits = 2048 := rfl
  unfold UnpackedFloat.pack
  dsimp only
  rw [hbias, hwidth, hroom, if_neg (by omega)]
  split
  · rw [UnpackedFloat.unpackExponent_packComponents, BitVec.toNat_ofNat, hroom]
    omega
  · rw [UnpackedFloat.unpackExponent_packComponents]
    decide

/-! ## Signs and bits -/

theorem isFinite_neg (x : Float) : (-x).isFinite = x.isFinite := by
  show (Float.Model.pack x.toModel.unpack.neg).isFinite = x.toModel.unpack.isFinite
  cases h : x.toModel.unpack with
  | notANumber => rfl
  | infinity s => cases s <;> rfl
  | zero s => cases s <;> rfl
  | finite s m e hm => exact isFinite_pack (le_of_unpack h)

theorem isFinite_eq (x : Float) : isFinite x = x.isFinite := by
  have hfield : (@UnpackedFloat.unpackExponent binary64 x.toBits.toBitVec).toNat =
      x.toBits.toNat / 2 ^ 52 % 2 ^ 11 := by
    show x.toBits.toNat >>> 52 % 2 ^ 11 = _
    rw [Nat.shiftRight_eq_div_pow]
  have hiff := isFinite_unpack_iff (b := x.toBits.toBitVec)
  rw [hfield] at hiff
  rw [Bool.eq_iff_iff]
  refine Iff.trans ?_ hiff.symm
  unfold isFinite view viewBits
  dsimp only
  by_cases hexponent : x.toBits.toNat / 2 ^ 52 % 2 ^ 11 = 2047
  · rw [if_pos hexponent]
    by_cases hfraction : x.toBits.toNat % 2 ^ 52 = 0
    · simp [hfraction, hexponent]
    · simp [hfraction, hexponent]
  · rw [if_neg hexponent]
    by_cases hzero : x.toBits.toNat / 2 ^ 52 % 2 ^ 11 = 0
    · simp [hzero]
    · simp [hzero, hexponent]

end Binary64

end CrudByName
