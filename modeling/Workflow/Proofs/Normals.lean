import Workflow.Proofs.Saturation
import Workflow.Policy

/-!
# Normal doubles

A positive double with all of its 53 bits in use is a significand and the place of its last bit,
counted from the place of the least double. Such doubles are ordered like their sizes, a positive
integer becomes the nearest of them, and the product with a power of two moves the place and
nothing else, so it is exact until it leaves the range of doubles and becomes infinite.
-/

namespace Workflow.Double

open Float.Model

/-! ## Rounding to the nearest -/

theorem roundedQuotient_mul_left {factor : Nat} (positive : 0 < factor) (dividend divisor : Nat) :
    roundedQuotient (factor * dividend) (factor * divisor) = roundedQuotient dividend divisor := by
  have rest : 2 * (factor * dividend % (factor * divisor)) =
      factor * (2 * (dividend % divisor)) := by
    rw [Nat.mul_mod_mul_left]
    ring
  simp only [roundedQuotient, Nat.mul_div_mul_left _ _ positive, rest,
    Nat.mul_lt_mul_left positive]

theorem roundedQuotient_mul_self {divisor : Nat} (positive : 0 < divisor) (whole : Nat) :
    roundedQuotient (whole * divisor) divisor = whole := by
  rw [roundedQuotient, Nat.mul_mod_left, Nat.mul_div_cancel _ positive, if_pos (by omega)]

/-- Rounding goes to one of the two neighbours. -/
theorem roundedQuotient_mem (dividend divisor : Nat) :
    dividend / divisor ≤ roundedQuotient dividend divisor ∧
      roundedQuotient dividend divisor ≤ dividend / divisor + 1 := by
  simp only [roundedQuotient]
  split
  · omega
  · split <;> omega

/-- The two extra bits say how what was shifted out compares with nothing and with a half. -/
structure Leaves (mantissa places : Nat) (extended : UnpackedFloat.ExtendedMantissa) : Prop where
  quotient : extended.mantissa = mantissa / 2 ^ places
  half : extended.roundBit ↔ 2 ^ places ≤ 2 * (mantissa % 2 ^ places)
  between : extended.stickyBit ↔
    2 * (mantissa % 2 ^ places) ≠ 0 ∧ 2 * (mantissa % 2 ^ places) ≠ 2 ^ places

theorem Leaves.shiftRightOne {mantissa places : Nat} {extended : UnpackedFloat.ExtendedMantissa}
    (leaves : Leaves mantissa places extended) :
    Leaves mantissa (places + 1) extended.shiftRightOne := by
  have bound := Nat.mod_lt mantissa (Nat.two_pow_pos places)
  have rest : mantissa % 2 ^ (places + 1) =
      mantissa % 2 ^ places + 2 ^ places * (mantissa / 2 ^ places % 2) := Nat.mod_pow_succ
  have bit := Nat.mod_two_eq_zero_or_one (mantissa / 2 ^ places)
  constructor
  case quotient =>
    rw [UnpackedFloat.ExtendedMantissa.shiftRightOne, leaves.quotient, Nat.div_div_eq_div_mul,
      Nat.pow_succ]
  case half =>
    rw [UnpackedFloat.ExtendedMantissa.shiftRightOne, leaves.quotient, rest, Nat.pow_succ,
      bne_iff_ne]
    rcases bit with bit | bit <;> rw [bit] <;> omega
  case between =>
    rw [UnpackedFloat.ExtendedMantissa.shiftRightOne, Bool.or_eq_true, leaves.half, leaves.between,
      rest, Nat.pow_succ]
    rcases bit with bit | bit <;> rw [bit] <;> omega

theorem leaves_shiftRight (mantissa places : Nat) :
    Leaves mantissa places 
      ((⟨mantissa, false, false⟩ : UnpackedFloat.ExtendedMantissa) >>> places) := by
  change Leaves mantissa places
    (places.repeat UnpackedFloat.ExtendedMantissa.shiftRightOne ⟨mantissa, false, false⟩)
  induction places with
  | zero => constructor <;> simp [Nat.repeat, Nat.mod_one]
  | succ places ih => exact ih.shiftRightOne

theorem Leaves.roundedMantissa {mantissa places : Nat} {extended : UnpackedFloat.ExtendedMantissa}
    (leaves : Leaves mantissa places extended) :
    extended.roundedMantissa = roundedQuotient mantissa (2 ^ places) := by
  rcases extended with ⟨whole, roundBit, stickyBit⟩
  obtain ⟨quotient, half, between⟩ := leaves
  dsimp only at quotient half between
  have rounds : (⟨whole, roundBit, stickyBit⟩ :
      UnpackedFloat.ExtendedMantissa).roundedMantissa =
        if roundBit then if stickyBit then whole + 1 else whole + whole % 2 else whole := by
    cases roundBit <;> cases stickyBit <;> rfl
  rw [rounds, quotient, roundedQuotient]
  simp only [half, between]
  split
  next atLeast =>
    split
    next above => rw [if_neg (by omega), if_pos (by omega)]
    next even => rw [if_neg (by omega), if_neg (by omega)]
  next below => rw [if_pos (by omega)]
theorem log2_mul_two_pow {whole : Nat} (nonzero : whole ≠ 0) (places : Nat) :
    (whole * 2 ^ places).log2 = whole.log2 + places := by
  have positive := Nat.two_pow_pos places
  have bounds := (Nat.log2_eq_iff nonzero).mp rfl
  rw [Nat.log2_eq_iff (Nat.mul_ne_zero nonzero (by omega))]
  constructor
  · rw [Nat.pow_add]
    exact Nat.mul_le_mul_right _ bounds.1
  · rw [Nat.add_right_comm, Nat.pow_add]
    exact Nat.mul_lt_mul_of_pos_right bounds.2 positive

/-! ## Normal doubles -/

/-- A positive number of 53 bits with its last bit at a place. -/
structure Normal where
  significand : Nat
  place : Nat
  least : 2 ^ 52 ≤ significand
  most : significand < 2 ^ 53

namespace Normal

variable (normal : Normal)

/-- The exponent that belongs to a place. -/
def exponent : Int := (normal.place : Int) - 1074

/-- The number as a multiple of the least double. -/
def size : Nat := normal.significand * 2 ^ normal.place

theorem positive : 0 < normal.significand := Nat.lt_of_lt_of_le (by decide) normal.least

def unpacked : UnpackedFloat :=
  .finite .positive normal.significand normal.exponent normal.positive

/-- The double that it is; beyond the range of doubles that is infinity. -/
def toFloat : Float := .ofModel (Float.Model.pack normal.unpacked)

end Normal

/-! ## Rounding to normal numbers -/

theorem shiftToTargetExponent_of_log2 {mantissa places : Nat} {exponent : Int}
    (isLog : mantissa.log2 = 52 + places) (near : -1074 ≤ exponent + places) :
    UnpackedFloat.shiftToTargetExponent Format.binary64 mantissa exponent .exact =
      ((⟨mantissa, false, false⟩ : UnpackedFloat.ExtendedMantissa) >>> places,
        exponent + places) := by
  have least : Format.binary64.minExponent = -1074 := rfl
  have bits : Format.binary64.mantissaBits = 53 := rfl
  have amount :
      (Format.binary64.targetExponent (totalExponent mantissa exponent) - exponent).toNat =
        places := by
    simp only [Format.targetExponent, totalExponent, isLog, least, bits]
    omega
  simp only [UnpackedFloat.shiftToTargetExponent, UnpackedFloat.shiftToExponent, amount,
    UnpackedFloat.ExtendedMantissa.ofMantissaAndAccuracy]

/-- A number of at least 53 bits is rounded to the nearest one of 53 bits. Rounding up may carry
into one more bit, which is zeros then. -/
theorem exists_round_eq_unpacked {mantissa places place : Nat} {exponent : Int}
    (isLog : mantissa.log2 = 52 + places) (isPlace : exponent + places + 1074 = place) :
    ∃ normal : Normal,
      UnpackedFloat.roundWithAccuracy Format.binary64 .positive mantissa exponent .exact =
        normal.unpacked ∧
      normal.size = roundedQuotient mantissa (2 ^ places) * 2 ^ place := by
  have first := shiftToTargetExponent_of_log2 isLog (show -1074 ≤ exponent + places by omega)
  have isRounded := (leaves_shiftRight mantissa places).roundedMantissa
  have upper := upper_bits isLog (Nat.le_add_right _ _)
  have neighbours := roundedQuotient_mem mantissa (2 ^ places)
  rw [Nat.add_sub_cancel_left] at upper
  generalize roundedQuotient mantissa (2 ^ places) = rounded at *
  obtain ⟨carry, isCarry, exact, least, most⟩ : ∃ carry, rounded.log2 = 52 + carry ∧
      rounded / 2 ^ carry * 2 ^ carry = rounded ∧
      2 ^ 52 ≤ rounded / 2 ^ carry ∧ rounded / 2 ^ carry < 2 ^ 53 := by
    by_cases carries : rounded < 2 ^ 53
    · exact ⟨0, (Nat.log2_eq_iff (by omega)).mpr ⟨by omega, carries⟩, by simp, by omega, by omega⟩
    · obtain rfl : rounded = 2 ^ 53 := by omega
      exact ⟨1, by decide, by decide, by decide, by decide⟩
  have second := shiftToTargetExponent_of_log2 isCarry
    (show -1074 ≤ exponent + places + carry by omega)
  have final := (leaves_shiftRight rounded carry).quotient
  refine ⟨⟨rounded / 2 ^ carry, place + carry, least, most⟩, ?rounds, ?size⟩
  case rounds =>
    simp only [UnpackedFloat.roundWithAccuracy, first, isRounded, second, final]
    rw [dif_neg (by omega)]
    simp only [Normal.unpacked, Normal.exponent]
    congr 1
    omega
  case size =>
    rw [Normal.size, Nat.pow_add, Nat.mul_comm (2 ^ place), ← Nat.mul_assoc, exact]

namespace Normal

variable {normal : Normal}

theorem log2_significand (normal : Normal) : normal.significand.log2 = 52 :=
  (Nat.log2_eq_iff (Nat.ne_of_gt normal.positive)).mpr ⟨normal.least, normal.most⟩

/-- The number is in the range of doubles. -/
def Fits (normal : Normal) : Prop := normal.place ≤ 2045

instance : Decidable normal.Fits := inferInstanceAs (Decidable (_ ≤ _))

theorem pack_unpacked (fits : normal.Fits) :
    UnpackedFloat.pack Format.binary64 normal.unpacked =
      UnpackedFloat.packComponents Format.binary64 .positive (BitVec.ofNat 11 (normal.place + 1))
        (BitVec.ofNat 52 normal.significand) := by
  have bias : Format.binary64.exponentBias = 1023 := rfl
  have bits : Format.binary64.mantissaBits = 53 := rfl
  have field : (normal.exponent + (1023 : Nat) + (52 : Nat)).toNat = normal.place + 1 := by
    rw [exponent]
    omega
  have usual : ¬ 2 ^ 11 ≤ normal.place + 1 + 1 := by
    rw [Fits] at fits
    omega
  simp only [unpacked, UnpackedFloat.pack, bias, field, if_neg usual, log2_significand, bits,
    if_true]

theorem unpack_toFloat (fits : normal.Fits) : normal.toFloat.toModel.unpack = normal.unpacked := by
  have least := normal.least
  have most := normal.most
  rw [Fits] at fits
  change UnpackedFloat.unpack Format.binary64 (UnpackedFloat.pack _ normal.unpacked) = _
  have field : (BitVec.ofNat 11 (normal.place + 1)).toNat = normal.place + 1 :=
    Nat.mod_eq_of_lt (by omega)
  have usual := ne_of_toNat_lt (show (BitVec.ofNat 11 (normal.place + 1)).toNat < 2047 by omega)
  have nonzero : BitVec.ofNat 11 (normal.place + 1) ≠ 0#11 := by
    intro zero
    rw [zero] at field
    cases field
  have fraction : (1#1 ++ BitVec.ofNat 52 normal.significand).toNat = normal.significand := by
    have lower : (BitVec.ofNat 52 normal.significand).toNat = normal.significand % 2 ^ 52 := rfl
    rw [BitVec.toNat_append, ← Nat.shiftLeft_add_eq_or_of_lt (BitVec.isLt _), Nat.shiftLeft_eq,
      lower]
    change 1 * 2 ^ 52 + _ = _
    omega
  have sign : UnpackedFloat.Sign.ofBitVec UnpackedFloat.Sign.positive.toBitVec = .positive := rfl
  have bias : (Format.binary64.exponentBias : Int) + (52 : Nat) = 1075 := rfl
  rw [pack_unpacked fits]
  simp only [UnpackedFloat.unpack, UnpackedFloat.unpackExponent_packComponents,
    UnpackedFloat.unpackMantissa_packComponents, UnpackedFloat.unpackSign_packComponents,
    if_neg usual, if_neg nonzero, sign, fraction, unpacked, field, bias]
  congr 1
  rw [exponent]
  omega

theorem toFloat_of_large (large : ¬ normal.Fits) :
    normal.toFloat = .ofModel (Float.Model.pack (.infinity .positive)) := by
  have bias : Format.binary64.exponentBias = 1023 := rfl
  have beyond : 2 ^ 11 ≤ (normal.exponent + (1023 : Nat) + (52 : Nat)).toNat + 1 := by
    rw [Fits] at large
    rw [exponent]
    omega
  have packed : UnpackedFloat.pack Format.binary64 normal.unpacked =
      UnpackedFloat.pack Format.binary64 (.infinity .positive) := by
    simp only [unpacked, UnpackedFloat.pack, bias, if_pos beyond]
  simp only [toFloat, Float.Model.pack, packed]

theorem unpack_toFloat_of_large (large : ¬ normal.Fits) :
    normal.toFloat.toModel.unpack = .infinity .positive := by
  rw [toFloat_of_large large]
  rfl


end Normal

/-! ## Order -/

namespace Normal

/-- Of two numbers the one with the later place is larger, and at one place the one with the larger
significand. -/
theorem size_lt_iff (left right : Normal) :
    left.size < right.size ↔
      left.place < right.place ∨
        left.place = right.place ∧ left.significand < right.significand := by
  have below {small large : Normal} (earlier : small.place < large.place) :
      small.size < large.size := by
    calc small.significand * 2 ^ small.place
      _ < 2 ^ 53 * 2 ^ small.place := Nat.mul_lt_mul_of_pos_right small.most (Nat.two_pow_pos _)
      _ = 2 ^ 52 * 2 ^ (small.place + 1) := by ring
      _ ≤ 2 ^ 52 * 2 ^ large.place :=
        Nat.mul_le_mul_left _ (Nat.pow_le_pow_right (by decide) earlier)
      _ ≤ large.significand * 2 ^ large.place := Nat.mul_le_mul_right _ large.least
  rcases Nat.lt_trichotomy left.place right.place with earlier | same | later
  · simp [below earlier, earlier]
  · have scaled : left.size < right.size ↔ left.significand < right.significand := by
      rw [size, size, same, Nat.mul_lt_mul_right (Nat.two_pow_pos _)]
    simp [scaled, same]
  · have := below later
    omega

/-- A number is given by its size. -/
theorem eq_of_size_eq {left right : Normal} (same : left.size = right.size) : left = right := by
  have notBelow := mt (size_lt_iff left right).mpr (by omega)
  have notAbove := mt (size_lt_iff right left).mpr (by omega)
  rcases left with ⟨significand, place, least, most⟩
  rcases right with ⟨significand', place', least', most'⟩
  dsimp only at notBelow notAbove
  obtain rfl : place = place' := by omega
  obtain rfl : significand = significand' := by omega
  rfl

theorem lt_iff_compare (left right : Float) :
    left < right ↔ left.toModel.unpack.compare right.toModel.unpack = some .lt := by
  change decide (left.toModel < right.toModel) = true ↔ _
  rw [decide_eq_true_eq]
  change (left.toModel.unpack.compare right.toModel.unpack == some .lt) = true ↔ _
  rw [beq_iff_eq]

/-- Numbers in the range of doubles are ordered by their sizes, and all others are beyond them. -/
theorem toFloat_lt_iff (left right : Normal) :
    left.toFloat < right.toFloat ↔ left.Fits ∧ left.size < right.size := by
  rw [lt_iff_compare, size_lt_iff]
  by_cases leftFits : left.Fits
  · by_cases rightFits : right.Fits
    · rw [unpack_toFloat leftFits, unpack_toFloat rightFits]
      simp only [unpacked, UnpackedFloat.compare, Option.some_inj, Ordering.then_eq_lt,
        compare_lt_iff_lt, compare_eq_iff_eq, exponent]
      simp only [leftFits, true_and]
      omega
    · have later : left.place < right.place := by
        simp only [Fits] at leftFits rightFits
        omega
      rw [unpack_toFloat leftFits, unpack_toFloat_of_large rightFits]
      simp [unpacked, UnpackedFloat.compare, leftFits, later]
  · rw [unpack_toFloat_of_large leftFits]
    by_cases rightFits : right.Fits
    · rw [unpack_toFloat rightFits]
      simp [unpacked, UnpackedFloat.compare, leftFits]
    · rw [unpack_toFloat_of_large rightFits]
      simp [UnpackedFloat.compare, leftFits]

theorem le_iff_compare (left right : Float) :
    left ≤ right ↔ (left.toModel.unpack.compare right.toModel.unpack).any Ordering.isLE := by
  change decide (left.toModel ≤ right.toModel) = true ↔ _
  rw [decide_eq_true_eq]
  rfl

theorem toFloat_le_iff {left right : Normal} (leftFits : left.Fits) (rightFits : right.Fits) :
    left.toFloat ≤ right.toFloat ↔ left.size ≤ right.size := by
  rw [le_iff_compare, unpack_toFloat leftFits, unpack_toFloat rightFits, ← Nat.not_lt,
    size_lt_iff]
  simp only [unpacked, UnpackedFloat.compare, Option.any_some, Ordering.isLE_iff_eq_lt_or_eq_eq,
    Ordering.then_eq_lt, Ordering.then_eq_eq, compare_lt_iff_lt, compare_eq_iff_eq, exponent]
  omega

theorem not_toFloat_lt_zero (normal : Normal) : ¬ normal.toFloat < 0.0 := by
  have zero : (0.0 : Float).toModel.unpack = .zero .positive := rfl
  rw [lt_iff_compare, zero]
  by_cases fits : normal.Fits
  · rw [unpack_toFloat fits]
    simp [unpacked, UnpackedFloat.compare]
  · rw [unpack_toFloat_of_large fits]
    simp [UnpackedFloat.compare]

theorem zero_lt_toFloat (normal : Normal) : (0.0 : Float) < normal.toFloat := by
  have zero : (0.0 : Float).toModel.unpack = .zero .positive := rfl
  rw [lt_iff_compare, zero]
  by_cases fits : normal.Fits
  · rw [unpack_toFloat fits]
    simp [unpacked, UnpackedFloat.compare]
  · rw [unpack_toFloat_of_large fits]
    simp [UnpackedFloat.compare]

theorem isNaN_toFloat (normal : Normal) : normal.toFloat.isNaN = false := by
  change normal.toFloat.toModel.unpack.isNaN = false
  by_cases fits : normal.Fits
  · rw [unpack_toFloat fits]
    rfl
  · rw [unpack_toFloat_of_large fits]
    rfl

theorem isFinite_toFloat (normal : Normal) : normal.toFloat.isFinite = decide normal.Fits := by
  change normal.toFloat.toModel.unpack.isFinite = _
  by_cases fits : normal.Fits
  · rw [unpack_toFloat fits]
    simp [fits, unpacked, UnpackedFloat.isFinite]
  · rw [unpack_toFloat_of_large fits]
    simp [fits, UnpackedFloat.isFinite]

/-! ## Bits -/

/-- The bits of a number in the range of doubles hold its significand and its place. -/
theorem magnitudeOf_toFloat {normal : Normal} (fits : normal.Fits) :
    (Decimal.magnitudeOf normal.toFloat).significand = normal.significand ∧
      (Decimal.magnitudeOf normal.toFloat).exponent = normal.exponent := by
  have least := normal.least
  have most := normal.most
  have near : normal.exponent ≤ 971 := by
    rw [Fits] at fits
    rw [exponent]
    omega
  have field : (normal.exponent + 1075).toNat = normal.place + 1 := by
    rw [exponent]
    omega
  have bits := toBits_pack .positive normal.exponent normal.positive least most near
  rw [field] at bits
  have magnitude := magnitudeOf_of_toBits bits (by rw [Fits] at fits; omega) (by omega) (by omega)
  rw [Nat.sub_add_cancel least] at magnitude
  refine ⟨magnitude.1, magnitude.2.trans ?_⟩
  rw [exponent]
  omega

/-! ## Products -/

/-- A number moved up by some places. -/
def moved (normal : Normal) (places : Nat) : Normal :=
  { normal with place := normal.place + places }

/-- A power of two. -/
def power (exponent : Nat) : Normal := ⟨2 ^ 52, 1022 + exponent, Nat.le_refl _, by decide⟩

theorem size_power (exponent : Nat) : (power exponent).size = 2 ^ exponent * 2 ^ 1074 := by
  calc 2 ^ 52 * 2 ^ (1022 + exponent)
    _ = 2 ^ exponent * 2 ^ 1074 := by
      rw [← Nat.pow_add, ← Nat.pow_add]
      congr 1
      omega

/-- The product with a power of two moves the places, as long as it gets no number below one beyond
the range of doubles. -/
theorem toFloat_mul_power {normal : Normal} (atLeastOne : 1022 ≤ normal.place) (exponent : Nat) :
    normal.toFloat * (power exponent).toFloat = (normal.moved exponent).toFloat := by
  change Float.ofModel (Float.Model.pack (UnpackedFloat.mul Format.binary64
    normal.toFloat.toModel.unpack (power exponent).toFloat.toModel.unpack)) = _
  by_cases fits : normal.Fits
  · by_cases powerFits : (power exponent).Fits
    · have isLog : (normal.significand * 2 ^ 52).log2 = 52 + 52 := by
        rw [log2_mul_two_pow (Nat.ne_of_gt normal.positive), log2_significand]
      obtain ⟨product, rounds, isSize⟩ := exists_round_eq_unpacked isLog
        (show normal.exponent + (power exponent).exponent + (52 : Nat) + 1074 =
          ((normal.moved exponent).place : Int) by
            simp only [Normal.exponent, power, moved]
            omega)
      rw [roundedQuotient_mul_self (by decide)] at isSize
      obtain rfl : product = normal.moved exponent := eq_of_size_eq isSize
      rw [unpack_toFloat fits, unpack_toFloat powerFits]
      exact congrArg (fun value => Float.ofModel (Float.Model.pack value)) rounds
    · have large : ¬ (normal.moved exponent).Fits := by
        simp only [Fits, power, moved] at powerFits ⊢
        omega
      rw [unpack_toFloat fits, unpack_toFloat_of_large powerFits, toFloat_of_large large]
      rfl
  · have large : ¬ (normal.moved exponent).Fits := by
      simp only [Fits, moved] at fits ⊢
      omega
    rw [unpack_toFloat_of_large fits, toFloat_of_large large]
    by_cases powerFits : (power exponent).Fits
    · rw [unpack_toFloat powerFits]
      rfl
    · rw [unpack_toFloat_of_large powerFits]
      rfl

theorem power_mul_power (first second : Nat) :
    (power first).toFloat * (power second).toFloat = (power (first + second)).toFloat := by
  rw [toFloat_mul_power (Nat.le_add_right _ _)]
  simp only [moved, power, Nat.add_assoc]

end Normal

/-! ## Integers -/

/-- The integer that the nearest double of an integer is, in as many bits as doubles can have. -/
def nearest (whole : Nat) : Nat :=
  roundedQuotient whole (2 ^ (whole.log2 - 52)) * 2 ^ (whole.log2 - 52)

theorem nearest_mul_two_pow {significand : Nat} (fits : significand < 2 ^ 53) (places : Nat) :
    nearest (significand * 2 ^ places) = significand * 2 ^ places := by
  by_cases zero : significand = 0
  · subst zero
    rw [Nat.zero_mul]
    rfl
  · have few : significand.log2 < 53 := (Nat.log2_lt zero).mpr fits
    have split : significand * 2 ^ places =
        significand * 2 ^ (places - (significand.log2 + places - 52)) *
          2 ^ (significand.log2 + places - 52) := by
      rw [Nat.mul_assoc, ← Nat.pow_add]
      congr 2
      omega
    rw [nearest, log2_mul_two_pow zero]
    conv_lhs => rw [split, roundedQuotient_mul_self (Nat.two_pow_pos _)]
    exact split.symm

/-- An integer of at most 53 bits is a double itself. -/
theorem nearest_eq_self {whole : Nat} (fits : whole < 2 ^ 53) : nearest whole = whole := by
  simpa using nearest_mul_two_pow fits 0

theorem nearest_two_pow (exponent : Nat) : nearest (2 ^ exponent) = 2 ^ exponent := by
  simpa using nearest_mul_two_pow (show 1 < 2 ^ 53 by decide) exponent

/-- An integer and its nearest double have as many bits, unless rounding up carries. -/
theorem nearest_mem {whole : Nat} (positive : 0 < whole) :
    2 ^ whole.log2 ≤ nearest whole ∧ nearest whole ≤ 2 ^ (whole.log2 + 1) := by
  by_cases small : whole.log2 ≤ 52
  · have bounds := (Nat.log2_eq_iff (Nat.ne_of_gt positive)).mp rfl
    have fits : whole < 2 ^ 53 :=
      Nat.lt_of_lt_of_le bounds.2 (Nat.pow_le_pow_right (by decide) (by omega))
    rw [nearest_eq_self fits]
    exact ⟨bounds.1, Nat.le_of_lt bounds.2⟩
  · have upper := @upper_bits whole _ rfl (by omega)
    have neighbours := roundedQuotient_mem whole (2 ^ (whole.log2 - 52))
    rw [nearest]
    constructor
    · calc 2 ^ whole.log2
        _ = 2 ^ 52 * 2 ^ (whole.log2 - 52) := by rw [← Nat.pow_add]; congr 1; omega
        _ ≤ _ := Nat.mul_le_mul_right _ (by omega)
    · calc _
        _ ≤ 2 ^ 53 * 2 ^ (whole.log2 - 52) := Nat.mul_le_mul_right _ (by omega)
        _ = 2 ^ (whole.log2 + 1) := by rw [← Nat.pow_add]; congr 1; omega

/-- The doubles below `2 ^ 64` end `2 ^ 11` before it, and half of that is rounded up. -/
theorem nearest_lt_iff (whole : Nat) : nearest whole < 2 ^ 64 ↔ whole < 2 ^ 64 - 2 ^ 10 := by
  rcases Nat.eq_zero_or_pos whole with rfl | positive
  · decide
  have bounds := (Nat.log2_eq_iff (Nat.ne_of_gt positive)).mp rfl
  have neighbours := nearest_mem positive
  rcases Nat.lt_trichotomy whole.log2 63 with few | same | many
  · have := Nat.pow_le_pow_right (show 0 < 2 by decide) (show whole.log2 + 1 ≤ 63 by omega)
    omega
  · rw [same] at bounds
    rw [nearest, same, roundedQuotient]
    split
    · omega
    · split <;> omega
  · have := Nat.pow_le_pow_right (show 0 < 2 by decide) (show 64 ≤ whole.log2 by omega)
    omega

/-- However an integer is scaled up before it is rounded, it becomes the double nearest to it. -/
theorem exists_round_eq_nearest {whole : Nat} (positive : 0 < whole) (shift : Nat)
    (enough : 52 ≤ whole.log2 + shift) :
    ∃ normal : Normal,
      UnpackedFloat.roundWithAccuracy Format.binary64 .positive (whole * 2 ^ shift) (-shift)
        .exact = normal.unpacked ∧
      normal.size = nearest whole * 2 ^ 1074 := by
  have isLog : (whole * 2 ^ shift).log2 = 52 + (whole.log2 + shift - 52) := by
    rw [log2_mul_two_pow (Nat.ne_of_gt positive)]
    omega
  have isPlace : -(shift : Int) + (whole.log2 + shift - 52 : Nat) + 1074 =
      (1022 + whole.log2 : Nat) := by omega
  obtain ⟨normal, rounds, isSize⟩ := exists_round_eq_unpacked isLog isPlace
  refine ⟨normal, rounds, ?_⟩
  by_cases small : whole.log2 ≤ 52
  · have fits : whole < 2 ^ 53 := (Nat.log2_lt (Nat.ne_of_gt positive)).mp (by omega)
    have split : 2 ^ shift = 2 ^ (52 - whole.log2) * 2 ^ (whole.log2 + shift - 52) := by
      rw [← Nat.pow_add]
      congr 1
      omega
    rw [isSize, nearest_eq_self fits, split, ← Nat.mul_assoc,
      roundedQuotient_mul_self (Nat.two_pow_pos _), Nat.mul_assoc, ← Nat.pow_add]
    congr 2
    omega
  · have split : 2 ^ (whole.log2 + shift - 52) = 2 ^ shift * 2 ^ (whole.log2 - 52) := by
      rw [← Nat.pow_add]
      congr 1
      omega
    rw [isSize, split, Nat.mul_comm whole, roundedQuotient_mul_left (Nat.two_pow_pos _), nearest,
      Nat.mul_assoc, ← Nat.pow_add]
    congr 2
    omega

theorem ofScientific_eq_round {whole : Nat} (positive : 0 < whole) :
    UnpackedFloat.ofScientific Format.binary64 whole 0 =
      UnpackedFloat.roundWithAccuracy Format.binary64 .positive (whole * 2 ^ 53) (-(53 : Nat))
        .exact := by
  have usual : ¬ (0 : Int) < -((2 ^ Format.binary64.exponentBits : Int) + whole.log2) := by
    have field : Format.binary64.exponentBits = 11 := rfl
    rw [field]
    omega
  have scaled : whole <<< Format.binary64.mantissaBits * 10 ^ (0 : Int).toNat = whole * 2 ^ 53 := by
    rw [Nat.shiftLeft_eq, Int.toNat_zero, Nat.pow_zero, Nat.mul_one]
    rfl
  rw [UnpackedFloat.ofScientific, dif_neg (by omega), if_neg (by decide), if_neg usual,
    if_pos (Int.le_refl 0), UnpackedFloat.mul, scaled]
  rfl

theorem ofNat_eq_round {whole : Nat} (positive : 0 < whole) (fits : whole < 2 ^ 53) :
    UnpackedFloat.ofNat Format.binary64 whole =
      UnpackedFloat.roundWithAccuracy Format.binary64 .positive (whole * 2 ^ (52 - whole.log2))
        (-(52 - whole.log2 : Nat)) .exact := by
  have few : whole.log2 < 53 := (Nat.log2_lt (Nat.ne_of_gt positive)).mpr fits
  have isPositive : compare (whole : Int) 0 = .gt := by
    rw [compare_gt_iff_gt]
    omega
  have amount : (-Format.binary64.targetExponent (totalExponent whole 0)).toNat =
      52 - whole.log2 := by
    have least : Format.binary64.minExponent = -1074 := rfl
    have bits : Format.binary64.mantissaBits = 53 := rfl
    simp only [Format.targetExponent, totalExponent, least, bits]
    omega
  simp only [UnpackedFloat.ofNat, UnpackedFloat.ofInt, UnpackedFloat.normalize, isPositive,
    UnpackedFloat.round, UnpackedFloat.decreaseExponent, Int.toNat_natCast, amount,
    Nat.shiftLeft_eq, Int.zero_sub]

theorem exists_toUInt64_eq_toFloat {whole : Nat} (positive : 0 < whole) (fits : whole < 2 ^ 53) :
    ∃ normal : Normal, whole.toUInt64.toFloat = normal.toFloat ∧
      normal.size = whole * 2 ^ 1074 := by
  obtain ⟨normal, rounds, isSize⟩ :=
    exists_round_eq_nearest positive (52 - whole.log2) (by omega)
  have isWhole : whole.toUInt64.toNat = whole := Nat.mod_eq_of_lt (by omega)
  rw [← ofNat_eq_round positive fits] at rounds
  rw [nearest_eq_self fits] at isSize
  refine ⟨normal, ?_, isSize⟩
  rw [Normal.toFloat, ← rounds]
  conv_rhs => rw [← isWhole]
  rfl

/-- A small integer is converted by one multiplication with one, which changes nothing. -/
theorem ofNat_eq_toFloat_toUInt64 {whole : Nat} (fits : whole < 2 ^ 53) :
    Float.ofNat whole = whole.toUInt64.toFloat := by
  rcases Nat.eq_zero_or_pos whole with rfl | positive
  · rfl
  obtain ⟨normal, converted, isSize⟩ := exists_toUInt64_eq_toFloat positive fits
  have one : Float.exactlyRepresentablePowersOfTen[0] = (Normal.power 0).toFloat := rfl
  have large : ¬ normal.size < (Normal.power 0).size := by
    rw [isSize, Normal.size_power, Nat.mul_lt_mul_right (Nat.two_pow_pos _)]
    omega
  have atLeastOne : 1022 ≤ normal.place :=
    not_lt.mp fun earlier => large ((Normal.size_lt_iff _ _).mpr (.inl earlier))
  change Float.ofScientific whole false 0 = _
  rw [Float.ofScientific, dif_pos ⟨fits, by decide⟩]
  simp only [Bool.false_eq_true, if_false, one, converted]
  exact Normal.toFloat_mul_power atLeastOne 0

/-- A positive integer becomes the double nearest to it. -/
theorem exists_ofNat_eq_toFloat {whole : Nat} (positive : 0 < whole) :
    ∃ normal : Normal, Float.ofNat whole = normal.toFloat ∧
      normal.size = nearest whole * 2 ^ 1074 := by
  by_cases fits : whole < 2 ^ 53
  · rw [nearest_eq_self fits, ofNat_eq_toFloat_toUInt64 fits]
    exact exists_toUInt64_eq_toFloat positive fits
  · obtain ⟨normal, rounds, isSize⟩ :=
      exists_round_eq_nearest positive 53 (by omega)
    refine ⟨normal, ?_, isSize⟩
    change Float.ofScientific whole false 0 = _
    rw [Float.ofScientific, dif_neg fun fast => fits fast.1]
    change Float.ofModel (Float.Model.pack (UnpackedFloat.ofScientific Format.binary64 whole 0)) = _
    rw [ofScientific_eq_round positive, rounds]
    rfl

theorem ofNat_two_pow (exponent : Nat) :
    Float.ofNat (2 ^ exponent) = (Normal.power exponent).toFloat := by
  obtain ⟨normal, isFloat, isSize⟩ := exists_ofNat_eq_toFloat (Nat.two_pow_pos exponent)
  have same : normal = Normal.power exponent := by
    apply Normal.eq_of_size_eq
    rw [isSize, nearest_two_pow, ← Normal.size_power]
  rw [isFloat, same]

end Workflow.Double
