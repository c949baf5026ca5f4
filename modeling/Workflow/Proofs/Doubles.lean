import Mathlib
import Workflow.Json

/-!
# Doubles near integers

The double nearest to an integer that a document can hold is finite, and so is the sum of two of
them. Along the definitions of the conversion and of the operations it is only followed how large
the exponent can get: rounding moves it up to where 53 bits are enough and by at most one place
more, and packing gives an infinity only far beyond that.
-/

namespace Workflow.Double

open Float.Model

/-- Zero, or a finite number with an exponent up to a bound. -/
inductive Modest (bound : Int) : UnpackedFloat → Prop where
  | zero (sign : UnpackedFloat.Sign) : Modest bound (.zero sign)
  | finite (sign : UnpackedFloat.Sign) {mantissa : Nat} (positive : 0 < mantissa) {exponent : Int}
    (small : exponent ≤ bound) : Modest bound (.finite sign mantissa exponent positive)

/-! ## Packing -/

theorem ne_of_toNat_lt {field : BitVec 11} (low : field.toNat < 2047) : field ≠ -1#11 := by
  rintro rfl
  exact absurd low (by decide)

/-- Zero, or a finite number that fits into 53 bits and has an exponent up to a bound. -/
inductive Short (bound : Int) : UnpackedFloat → Prop where
  | zero (sign : UnpackedFloat.Sign) : Short bound (.zero sign)
  | finite (sign : UnpackedFloat.Sign) {mantissa : Nat} (positive : 0 < mantissa)
    (fits : mantissa < 2 ^ 53) {exponent : Int} (small : exponent ≤ bound) :
    Short bound (.finite sign mantissa exponent positive)

theorem short_unpack {bits : BitVec Format.binary64.numBits} {bound : Int}
    (low : (UnpackedFloat.unpackExponent bits).toNat < 2047)
    (within : ((UnpackedFloat.unpackExponent bits).toNat : Int) ≤ bound + 1075)
    (near : -1074 ≤ bound) :
    Short bound (UnpackedFloat.unpack Format.binary64 bits) := by
  have usual := ne_of_toNat_lt low
  have bias : (Format.binary64.exponentBias : Int) + (52 : Nat) = 1075 := rfl
  simp only [UnpackedFloat.unpack, if_neg usual]
  split
  next subnormal =>
    split
    · exact .zero _
    · have field : (UnpackedFloat.unpackExponent bits).toNat = 0 := by
        rw [subnormal]
        rfl
      have fits : (UnpackedFloat.unpackMantissa bits).toNat < 2 ^ 52 :=
        (UnpackedFloat.unpackMantissa bits).isLt
      exact .finite _ _ (by omega) (by omega)
  next =>
    have fits : (1#1 ++ UnpackedFloat.unpackMantissa bits).toNat < 2 ^ (1 + 52) :=
      (1#1 ++ UnpackedFloat.unpackMantissa bits).isLt
    exact .finite _ _ fits (by omega)

/-- The exponent field of a modest number is not that of the infinities. -/
theorem exponent_pack {bound : Int} {value : UnpackedFloat} (modest : Modest bound value)
    (near : -1074 ≤ bound) (far : bound ≤ 971) :
    (UnpackedFloat.unpackExponent (UnpackedFloat.pack Format.binary64 value)).toNat < 2047 ∧
      ((UnpackedFloat.unpackExponent (UnpackedFloat.pack Format.binary64 value)).toNat : Int) ≤
        bound + 1075 := by
  cases modest with
  | zero sign =>
    simp only [UnpackedFloat.pack, UnpackedFloat.packedZero,
      UnpackedFloat.unpackExponent_packComponents, BitVec.ofNat_eq_ofNat, BitVec.toNat_ofNat,
      Nat.zero_mod]
    omega
  | @finite sign mantissa positive exponent small =>
    have bias : Format.binary64.exponentBias = 1023 := rfl
    simp only [UnpackedFloat.pack, bias]
    have low : ¬ (2 ^ 11 ≤ (exponent + (1023 : Nat) + (52 : Nat)).toNat + 1) := by omega
    rw [if_neg low]
    split
    · rw [UnpackedFloat.unpackExponent_packComponents, BitVec.toNat_ofNat]
      have fits : (exponent + (1023 : Nat) + (52 : Nat)).toNat < 2 ^ 11 := by omega
      rw [Nat.mod_eq_of_lt fits]
      omega
    · rw [UnpackedFloat.unpackExponent_packComponents]
      simp only [BitVec.toNat_ofNat, Nat.zero_mod]
      omega

/-! ## Rounding -/

theorem mantissa_shiftRight (mantissa : UnpackedFloat.ExtendedMantissa) (places : Nat) :
    (mantissa >>> places).mantissa = mantissa.mantissa / 2 ^ places := by
  change (places.repeat UnpackedFloat.ExtendedMantissa.shiftRightOne mantissa).mantissa = _
  induction places with
  | zero => exact (Nat.div_one _).symm
  | succ places ih =>
    rw [Nat.repeat]
    change (places.repeat UnpackedFloat.ExtendedMantissa.shiftRightOne mantissa).mantissa / 2 = _
    rw [ih, Nat.div_div_eq_div_mul, Nat.pow_succ]

theorem mantissa_ofMantissaAndAccuracy (mantissa : Nat) (accuracy : UnpackedFloat.Accuracy) :
    (UnpackedFloat.ExtendedMantissa.ofMantissaAndAccuracy mantissa accuracy).mantissa =
      mantissa := by
  cases accuracy with
  | exact => rfl
  | inexact order => cases order <;> rfl

theorem le_roundedMantissa (mantissa : UnpackedFloat.ExtendedMantissa) :
    mantissa.mantissa ≤ mantissa.roundedMantissa := by
  rw [UnpackedFloat.ExtendedMantissa.roundedMantissa]
  cases mantissa.accuracy with
  | exact => exact Nat.le_refl _
  | inexact order =>
    cases order with
    | lt => exact Nat.le_refl _
    | eq => exact Nat.le_add_right _ _
    | gt => exact Nat.le_succ _

theorem roundedMantissa_le (mantissa : UnpackedFloat.ExtendedMantissa) :
    mantissa.roundedMantissa ≤ mantissa.mantissa + 1 := by
  rw [UnpackedFloat.ExtendedMantissa.roundedMantissa]
  cases mantissa.accuracy with
  | exact => exact Nat.le_succ _
  | inexact order =>
    cases order with
    | lt => exact Nat.le_succ _
    | eq =>
      simp only [UnpackedFloat.Accuracy.roundToNearestEven]
      omega
    | gt => exact Nat.le_refl _

/-- How many places are dropped from a mantissa to fit it into 53 bits, or into those of them that
the least exponent leaves. -/
def dropped (mantissa : Nat) (exponent : Int) : Nat :=
  (max (mantissa.log2 + exponent - 52) (-1074) - exponent).toNat

/-- A shift drops places from the mantissa and counts them into the exponent. -/
theorem shiftToTargetExponent_eq (mantissa : Nat) (exponent : Int)
    (accuracy : UnpackedFloat.Accuracy) :
    (UnpackedFloat.shiftToTargetExponent Format.binary64 mantissa exponent accuracy).1.mantissa =
        mantissa / 2 ^ dropped mantissa exponent ∧
      (UnpackedFloat.shiftToTargetExponent Format.binary64 mantissa exponent accuracy).2 =
        exponent + dropped mantissa exponent := by
  have least : Format.binary64.minExponent = -1074 := rfl
  have bits : Format.binary64.mantissaBits = 53 := rfl
  have places :
      (Format.binary64.targetExponent (totalExponent mantissa exponent) - exponent).toNat =
        dropped mantissa exponent := by
    simp only [Format.targetExponent, totalExponent, least, bits, dropped]
    omega
  simp only [UnpackedFloat.shiftToTargetExponent, UnpackedFloat.shiftToExponent, places,
    mantissa_shiftRight, mantissa_ofMantissaAndAccuracy, and_self]

theorem dropped_le {mantissa size : Nat} (small : mantissa < 2 ^ size) (exponent : Int) :
    exponent + dropped mantissa exponent ≤ max exponent (max (exponent + size - 53) (-1074)) := by
  have order : mantissa.log2 ≤ size - 1 := by
    by_cases zero : mantissa = 0
    · rw [zero]
      exact Nat.zero_le _
    · have := (Nat.log2_lt zero).mpr small
      omega
  rw [dropped]
  omega

theorem modest_round {mantissa size : Nat} {exponent bound : Int} (sign : UnpackedFloat.Sign)
    (accuracy : UnpackedFloat.Accuracy) (small : mantissa < 2 ^ size)
    (within : exponent + size ≤ bound + 52) (start : exponent ≤ bound) (near : -1074 ≤ bound) :
    Modest bound
      (UnpackedFloat.roundWithAccuracy Format.binary64 sign mantissa exponent accuracy) := by
  have first := dropped_le small exponent
  obtain ⟨isQuotient, isBetween⟩ := shiftToTargetExponent_eq mantissa exponent accuracy
  rcases shifted : UnpackedFloat.shiftToTargetExponent Format.binary64 mantissa exponent accuracy
    with ⟨extended, between⟩
  rw [shifted] at isQuotient isBetween
  dsimp only at isQuotient isBetween
  have quotient : mantissa / 2 ^ dropped mantissa exponent <
      2 ^ (size - dropped mantissa exponent) := by
    rw [Nat.div_lt_iff_lt_mul (Nat.two_pow_pos _), ← Nat.pow_add]
    exact Nat.lt_of_lt_of_le small (Nat.pow_le_pow_right (by decide) (by omega))
  have rounded : extended.roundedMantissa < 2 ^ (size - dropped mantissa exponent + 1) := by
    have step := roundedMantissa_le extended
    rw [Nat.pow_succ]
    omega
  -- Rounding up may carry into one more bit, so the mantissa is shifted a second time.
  have second := dropped_le rounded between
  have isLast := (shiftToTargetExponent_eq extended.roundedMantissa between .exact).2
  simp only [UnpackedFloat.roundWithAccuracy, shifted]
  split
  · exact .zero _
  · exact .finite _ _ (by omega)

theorem modest_normalize {mantissa : Int} {size : Nat} {exponent bound : Int}
    (sign : UnpackedFloat.Sign) (small : mantissa.natAbs < 2 ^ size)
    (within : exponent + size ≤ bound + 52) (start : exponent ≤ bound) (near : -1074 ≤ bound) :
    Modest bound (UnpackedFloat.normalize Format.binary64 mantissa exponent sign) := by
  have rounds : ∀ (sign : UnpackedFloat.Sign) (magnitude : Nat), magnitude < 2 ^ size →
      Modest bound (UnpackedFloat.round Format.binary64 sign magnitude exponent) := by
    intro sign magnitude few
    have shifted (places : Nat) : magnitude <<< places < 2 ^ (size + places) := by
      rw [Nat.shiftLeft_eq, Nat.pow_add]
      exact Nat.mul_lt_mul_of_pos_right few (Nat.two_pow_pos _)
    exact modest_round sign _ (shifted _) (by omega) (by omega) near
  rw [UnpackedFloat.normalize]
  split
  · exact rounds _ _ (by omega)
  · exact .zero _
  · exact rounds _ _ (by omega)

/-! ## Arithmetic -/

theorem Short.neg {bound : Int} {value : UnpackedFloat} (short : Short bound value) :
    Modest bound value.neg := by
  cases short with
  | zero sign => exact .zero _
  | finite sign positive fits small => exact .finite _ positive small

theorem modest_mul {left right : UnpackedFloat} {bound : Int} (leftShort : Short bound left)
    (rightShort : Short bound right) (near : 0 ≤ bound) :
    Modest (2 * bound + 54) (UnpackedFloat.mul Format.binary64 left right) := by
  cases leftShort with
  | zero sign =>
    cases rightShort with
    | zero sign' => exact .zero _
    | finite sign' positive' fits' small' => exact .zero _
  | @finite sign mantissa positive fits exponent small =>
    cases rightShort with
    | zero sign' => exact .zero _
    | @finite sign' mantissa' positive' fits' exponent' small' =>
      have product : mantissa * mantissa' < 2 ^ 53 * 2 ^ 53 := Nat.mul_lt_mul'' fits fits'
      have joined : mantissa * mantissa' < 2 ^ 106 := by omega
      exact modest_round _ _ joined (by omega) (by omega) (by omega)

theorem modest_div {left : UnpackedFloat} {mantissa : Nat} {exponent bound limit : Int}
    (leftShort : Short bound left) (positive : 0 < mantissa) (within : bound + 1 - exponent ≤ limit)
    (near : -1074 ≤ limit) :
    Modest limit
      (UnpackedFloat.div Format.binary64 left (.finite .positive mantissa exponent positive)) := by
  cases leftShort with
  | zero sign => exact .zero _
  | @finite sign mantissa' positive' fits exponent' small =>
    simp only [UnpackedFloat.div, UnpackedFloat.divCore]
    generalize Format.binary64.targetExponent
      (totalExponent mantissa' exponent' - totalExponent mantissa exponent) = target
    have quotient : mantissa' <<< (exponent' - exponent - min (exponent' - exponent) target).toNat /
        mantissa < 2 ^ (53 + (exponent' - exponent - min (exponent' - exponent) target).toNat) := by
      refine Nat.lt_of_le_of_lt (Nat.div_le_self _ _) ?_
      rw [Nat.shiftLeft_eq, Nat.pow_add]
      exact Nat.mul_lt_mul_of_pos_right fits (Nat.two_pow_pos _)
    exact modest_round _ _ quotient (by omega) (by omega) (by omega)

theorem natAbs_apply (sign : UnpackedFloat.Sign) (value : Nat) :
    (sign.apply value).natAbs = value := by
  cases sign with
  | negative => exact (Int.natAbs_neg _).trans (Int.natAbs_natCast _)
  | positive => exact Int.natAbs_natCast _

theorem decreaseExponent_lt {mantissa : Nat} {exponent bound : Int} (fits : mantissa < 2 ^ 53)
    (small : exponent ≤ bound) (target : Int) :
    (UnpackedFloat.decreaseExponent mantissa exponent target).1 <
      2 ^ (53 + (bound - target).toNat) := by
  rw [UnpackedFloat.decreaseExponent, Nat.shiftLeft_eq, Nat.pow_add]
  exact Nat.mul_lt_mul_of_lt_of_le fits (Nat.pow_le_pow_right (by decide) (by omega))
    (Nat.two_pow_pos _)

theorem modest_add {left right : UnpackedFloat} {bound : Int} (leftShort : Short bound left)
    (rightShort : Short bound right) (near : 0 ≤ bound) :
    Modest (bound + 2) (UnpackedFloat.add Format.binary64 left right) := by
  cases leftShort with
  | zero sign =>
    cases rightShort with
    | zero sign' =>
      rw [UnpackedFloat.add]
      split
      · exact .zero _
      · exact .zero _
    | finite sign' positive' fits' small' => exact .finite _ _ (by omega)
  | @finite sign mantissa positive fits exponent small =>
    cases rightShort with
    | zero sign' => exact .finite _ _ (by omega)
    | @finite sign' mantissa' positive' fits' exponent' small' =>
      have first := decreaseExponent_lt fits small (min exponent exponent')
      have second := decreaseExponent_lt fits' small' (min exponent exponent')
      have sum : (sign.apply (UnpackedFloat.decreaseExponent mantissa exponent
              (min exponent exponent')).1 +
            sign'.apply (UnpackedFloat.decreaseExponent mantissa' exponent'
              (min exponent exponent')).1).natAbs <
          2 ^ (53 + (bound - min exponent exponent').toNat + 1) := by
        refine Nat.lt_of_le_of_lt (Int.natAbs_add_le _ _) ?_
        rw [natAbs_apply, natAbs_apply, Nat.pow_succ]
        omega
      exact modest_normalize .positive sum (by omega) (by omega) (by omega)

/-! ## Integers -/

theorem short_pack {bound : Int} {value : UnpackedFloat} (modest : Modest bound value)
    (near : -1074 ≤ bound) (far : bound ≤ 971) : Short bound (Float.Model.pack value).unpack :=
  have field := exponent_pack modest near far
  short_unpack field.1 field.2 near

theorem Short.isFinite {bound : Int} {value : UnpackedFloat} (short : Short bound value) :
    value.isFinite = true := by
  cases short with
  | zero sign => rfl
  | finite sign positive fits small => rfl

theorem modest_ofNat {value : Nat} (small : value < 2 ^ 64) :
    Modest 12 (UnpackedFloat.ofNat Format.binary64 value) :=
  modest_normalize _ (show (value : Int).natAbs < 2 ^ 64 by omega) (by decide) (by decide)
    (by decide)

theorem modest_ofScientific {value : Nat} (small : value < 2 ^ 64) :
    Modest 78 (UnpackedFloat.ofScientific Format.binary64 value 0) := by
  rw [UnpackedFloat.ofScientific]
  split
  · exact .zero _
  · split
    · contradiction
    · split
      · exact .zero _
      · have bits : Format.binary64.mantissaBits = 53 := rfl
        have fits : value <<< Format.binary64.mantissaBits * 10 ^ (Int.ofNat 0).toNat <
            2 ^ 117 := by
          rw [bits, Nat.shiftLeft_eq]
          simp only [Int.ofNat_eq_natCast, Int.toNat_natCast, Nat.pow_zero]
          omega
        rw [if_pos (Int.le_refl 0), UnpackedFloat.mul]
        exact modest_round _ _ fits (by decide) (by decide) (by decide)

theorem short_ofNat {value : Nat} (small : value < 2 ^ 64) :
    Short 78 (Float.ofNat value).toModel.unpack := by
  change Short 78 (Float.ofScientific value false 0).toModel.unpack
  rw [Float.ofScientific]
  -- Small integers are converted by one multiplication of two doubles, others by rounding once.
  split
  next fast =>
    simp only [Bool.false_eq_true, if_false]
    have whole : value.toUInt64.toNat = value := Nat.mod_eq_of_lt small
    have left := short_pack (modest_ofNat small) (by decide) (by decide)
    have right : Short 12 (UnpackedFloat.unpack Format.binary64
        Float.exactlyRepresentablePowersOfTen[0].toModel.toBits.toBitVec) :=
      short_unpack (by decide) (by decide) (by decide)
    rw [← whole] at left
    exact short_pack (modest_mul left right (by decide)) (by decide) (by decide)
  next slow =>
    simp only [Bool.false_eq_true, if_false]
    exact short_pack (modest_ofScientific small) (by decide) (by decide)

/-- The double nearest to an integer that a document can hold has a small exponent. -/
theorem short_ofInt {value : Int} (inRange : (Number.int value).InRange) :
    Short 78 (Float.ofInt value).toModel.unpack := by
  rcases inRange with ⟨low, high⟩
  cases value with
  | ofNat value =>
    apply short_ofNat
    simp only [Number.maxUnsigned, Int.ofNat_eq_natCast] at high
    omega
  | negSucc value =>
    have short : Short 78 (Float.ofNat (value + 1)).toModel.unpack := by
      apply short_ofNat
      simp only [Number.minSigned] at low
      omega
    exact short_pack short.neg (by decide) (by decide)

/-- The double nearest to an integer that a document can hold is finite. -/
theorem isFinite_ofInt {value : Int} (inRange : (Number.int value).InRange) :
    (Float.ofInt value).isFinite = true :=
  (short_ofInt inRange).isFinite

/-- Two integers that a document can hold have a finite sum as doubles. -/
theorem isFinite_ofInt_add {left right : Int} (leftInRange : (Number.int left).InRange)
    (rightInRange : (Number.int right).InRange) :
    (Float.ofInt left + Float.ofInt right).isFinite = true :=
  (short_pack (modest_add (short_ofInt leftInRange) (short_ofInt rightInRange) (by decide))
    (by decide) (by decide)).isFinite

end Workflow.Double
