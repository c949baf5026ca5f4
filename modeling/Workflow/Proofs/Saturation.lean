import Workflow.Proofs.Doubles
import Workflow.Proofs.Draws

/-!
# Saturation

An integer argument goes through three readings: as a signed 64-bit integer, else as a double
without a fraction, else not at all. The double nearest to an unsigned integer beyond the signed
ones is an integer beyond them as well, so it is moved to the greatest signed integer, whatever it
is. The functions act exactly on what they are given after that, and that is the argument itself
just in case it is a signed 64-bit integer. The sum is an exception: it adds the two doubles.
-/

namespace Workflow.Double

open Float.Model

/-! ## Rounding of large numbers -/

theorem dropped_eq {mantissa size : Nat} {exponent : Int} (isLog : mantissa.log2 = size)
    (large : 52 ≤ size) (near : -1074 ≤ size + exponent - 52) :
    dropped mantissa exponent = size - 52 := by
  rw [dropped, isLog]
  omega

/-- What is left of a mantissa of at least 53 bits are the upper 53 of them. -/
theorem upper_bits {mantissa size : Nat} (isLog : mantissa.log2 = size) (large : 52 ≤ size) :
    2 ^ 52 ≤ mantissa / 2 ^ (size - 52) ∧ mantissa / 2 ^ (size - 52) < 2 ^ 53 := by
  have nonzero : mantissa ≠ 0 := by
    rintro rfl
    rw [Nat.log2_zero] at isLog
    omega
  obtain ⟨low, high⟩ := (Nat.log2_eq_iff nonzero).mp isLog
  constructor
  · rw [Nat.le_div_iff_mul_le (Nat.two_pow_pos _), ← Nat.pow_add]
    exact Nat.le_trans (Nat.pow_le_pow_right (by decide) (by omega)) low
  · rw [Nat.div_lt_iff_lt_mul (Nat.two_pow_pos _), ← Nat.pow_add]
    exact Nat.lt_of_lt_of_le high (Nat.pow_le_pow_right (by decide) (by omega))

/-- A number of at least 53 bits is rounded to one of exactly 53 bits, which has lost the others,
and one more if rounding it up carried. -/
theorem exists_round_eq {mantissa size : Nat} (sign : UnpackedFloat.Sign) (exponent : Int)
    (isLog : mantissa.log2 = size) (large : 52 ≤ size) (near : -1074 ≤ size + exponent - 52) :
    ∃ (rounded : Nat) (positive : 0 < rounded) (power : Int),
      UnpackedFloat.roundWithAccuracy Format.binary64 sign mantissa exponent .exact =
        .finite sign rounded power positive ∧
      2 ^ 52 ≤ rounded ∧ rounded < 2 ^ 53 ∧
      size + exponent - 52 ≤ power ∧ power ≤ size + exponent - 51 := by
  obtain ⟨isFirst, isBetween⟩ := shiftToTargetExponent_eq mantissa exponent .exact
  rcases shifted : UnpackedFloat.shiftToTargetExponent Format.binary64 mantissa exponent .exact
    with ⟨extended, between⟩
  rw [shifted, dropped_eq isLog large near] at isFirst isBetween
  dsimp only at isFirst isBetween
  have first := upper_bits isLog large
  have above := le_roundedMantissa extended
  have below := roundedMantissa_le extended
  obtain ⟨again, isAgain, few⟩ : ∃ again, extended.roundedMantissa.log2 = again ∧
      (again = 52 ∨ again = 53) := by
    by_cases carries : extended.roundedMantissa < 2 ^ 53
    · exact ⟨52, (Nat.log2_eq_iff (by omega)).mpr ⟨by omega, carries⟩, .inl rfl⟩
    · exact ⟨53, (Nat.log2_eq_iff (by omega)).mpr ⟨by omega, by omega⟩, .inr rfl⟩
  obtain ⟨isSecond, isPower⟩ := shiftToTargetExponent_eq extended.roundedMantissa between .exact
  rcases last : UnpackedFloat.shiftToTargetExponent Format.binary64 extended.roundedMantissa
    between .exact with ⟨rounded, power⟩
  rw [last, dropped_eq isAgain (by omega) (by omega)] at isSecond isPower
  dsimp only at isSecond isPower
  have second := upper_bits isAgain (by omega)
  refine ⟨rounded.mantissa, by omega, power, ?_, by omega, by omega, by omega, by omega⟩
  simp only [UnpackedFloat.roundWithAccuracy, shifted, last]
  exact dif_neg (by omega)

/-! ## The bits of a double -/

theorem toNat_packComponents (sign : UnpackedFloat.Sign) (exponent : BitVec 11)
    (mantissa : BitVec 52) :
    (UnpackedFloat.packComponents Format.binary64 sign exponent mantissa).toNat =
      sign.toBitVec.toNat * 2 ^ 63 + exponent.toNat * 2 ^ 52 + mantissa.toNat := by
  have packed : UnpackedFloat.packComponents Format.binary64 sign exponent mantissa =
      sign.toBitVec ++ exponent ++ mantissa := rfl
  have inner := BitVec.toNat_append sign.toBitVec exponent
  have outer := BitVec.toNat_append (sign.toBitVec ++ exponent) mantissa
  rw [← Nat.shiftLeft_add_eq_or_of_lt exponent.isLt, Nat.shiftLeft_eq] at inner
  rw [← Nat.shiftLeft_add_eq_or_of_lt mantissa.isLt, Nat.shiftLeft_eq, inner] at outer
  rw [packed, outer]
  ring

theorem toBits_pack (sign : UnpackedFloat.Sign) {mantissa : Nat} (exponent : Int)
    (positive : 0 < mantissa) (normal : 2 ^ 52 ≤ mantissa) (fits : mantissa < 2 ^ 53)
    (far : exponent ≤ 971) :
    (Float.ofModel (Float.Model.pack (.finite sign mantissa exponent positive))).toBits.toNat =
      sign.toBitVec.toNat * 2 ^ 63 + (exponent + 1075).toNat * 2 ^ 52 + (mantissa - 2 ^ 52) := by
  have bias : Format.binary64.exponentBias = 1023 := rfl
  have bits : Format.binary64.mantissaBits = 53 := rfl
  have isLog : mantissa.log2 = 52 := (Nat.log2_eq_iff (by omega)).mpr ⟨normal, fits⟩
  have usual : ¬ (2 ^ 11 ≤ (exponent + (1023 : Nat) + (52 : Nat)).toNat + 1) := by omega
  change (UnpackedFloat.pack Format.binary64 (.finite sign mantissa exponent positive)).toNat = _
  simp only [UnpackedFloat.pack, bias, if_neg usual, bits, isLog, if_true, toNat_packComponents,
    BitVec.toNat_ofNat]
  omega

section Bits

variable {value : Float} {sign field fraction : Nat}

theorem isNegative_of_toBits
    (bits : value.toBits.toNat = sign * 2 ^ 63 + field * 2 ^ 52 + fraction)
    (isField : field < 2 ^ 11) (isFraction : fraction < 2 ^ 52) :
    Decimal.isNegative value = decide (sign = 1) := by
  have shifted : (value.toBits >>> 63).toNat = sign := by
    rw [UInt64.toNat_shiftRight, bits]
    change _ >>> 63 = _
    rw [Nat.shiftRight_eq_div_pow]
    omega
  rw [Decimal.isNegative, decide_eq_decide, ← UInt64.toNat_inj, shifted]
  rfl

/-- The significand and the exponent of a normal double are those that its bits are packed from. -/
theorem magnitudeOf_of_toBits
    (bits : value.toBits.toNat = sign * 2 ^ 63 + field * 2 ^ 52 + fraction)
    (isField : field < 2 ^ 11) (isFraction : fraction < 2 ^ 52) (normal : field ≠ 0) :
    (Decimal.magnitudeOf value).significand = fraction + 2 ^ 52 ∧
      (Decimal.magnitudeOf value).exponent = (field : Int) - 1075 := by
  have magnitude : (value.toBits &&& 0x7FFFFFFFFFFFFFFF).toNat = field * 2 ^ 52 + fraction := by
    rw [UInt64.toNat_and, bits]
    change _ &&& (2 ^ 63 - 1) = _
    rw [Nat.and_two_pow_sub_one_eq_mod]
    omega
  have fractionBits :
      ((value.toBits &&& 0x7FFFFFFFFFFFFFFF) &&& 0xFFFFFFFFFFFFF).toNat = fraction := by
    rw [UInt64.toNat_and, magnitude]
    change _ &&& (2 ^ 52 - 1) = _
    rw [Nat.and_two_pow_sub_one_eq_mod]
    omega
  have fieldBits :
      (((value.toBits &&& 0x7FFFFFFFFFFFFFFF) >>> 52) &&& 0x7FF).toNat = field := by
    rw [UInt64.toNat_and, UInt64.toNat_shiftRight, magnitude]
    change _ >>> 52 &&& (2 ^ 11 - 1) = _
    rw [Nat.and_two_pow_sub_one_eq_mod, Nat.shiftRight_eq_div_pow]
    omega
  simp only [Decimal.magnitudeOf, Decimal.Binary.ofBits, fractionBits, fieldBits, if_neg normal,
    and_true]
  rfl

end Bits

/-! ## Integers beyond the signed ones -/

/-- An integer of 64 bits becomes a double whose last place counts `2 ^ 11` or `2 ^ 12`. -/
theorem exists_ofScientific_eq {value : Nat} (low : 2 ^ 63 ≤ value) (high : value < 2 ^ 64) :
    ∃ (mantissa : Nat) (positive : 0 < mantissa) (exponent : Int),
      UnpackedFloat.ofScientific Format.binary64 value 0 =
        .finite .positive mantissa exponent positive ∧
      2 ^ 52 ≤ mantissa ∧ mantissa < 2 ^ 53 ∧ 11 ≤ exponent ∧ exponent ≤ 12 := by
  have bits : Format.binary64.mantissaBits = 53 := rfl
  have isLog : (value <<< Format.binary64.mantissaBits * 10 ^ (0 : Int).toNat).log2 = 116 := by
    rw [bits, Nat.shiftLeft_eq, Int.toNat_zero, Nat.pow_zero, Nat.mul_one]
    exact (Nat.log2_eq_iff (by omega)).mpr ⟨by omega, by omega⟩
  obtain ⟨mantissa, positive, exponent, rounded, least, most, above, below⟩ :=
    exists_round_eq (UnpackedFloat.Sign.positive * .positive)
      (-(Format.binary64.mantissaBits : Int) + 0) isLog (by decide) (by decide)
  rw [bits] at above below
  have usual : ¬ (0 : Int) < -((2 ^ Format.binary64.exponentBits : Int) + value.log2) := by
    have field : Format.binary64.exponentBits = 11 := rfl
    rw [field]
    omega
  refine ⟨mantissa, positive, exponent, ?_, least, most, by omega, by omega⟩
  rw [UnpackedFloat.ofScientific, dif_neg (by omega), if_neg (by decide), if_neg usual,
    if_pos (Int.le_refl 0)]
  exact rounded

/-- An integer beyond the signed ones becomes a double that is an integer beyond them, too. -/
theorem exists_integral?_ofInt {value : Int} (large : Number.maxSigned < value)
    (inRange : (Number.int value).InRange) :
    ∃ whole, Decimal.integral? (Float.ofInt value) = some whole ∧ Number.maxSigned < whole := by
  have finite := isFinite_ofInt inRange
  have bounds := And.intro large inRange.2
  simp only [Number.maxSigned, Number.maxUnsigned] at bounds
  obtain ⟨size, rfl⟩ := Int.eq_ofNat_of_zero_le (show 0 ≤ value by omega)
  obtain ⟨mantissa, positive, exponent, unpacked, normal, fits, above, below⟩ :=
    exists_ofScientific_eq (show 2 ^ 63 ≤ size by omega) (by omega)
  have packed : Float.ofInt size =
      .ofModel (Float.Model.pack (.finite .positive mantissa exponent positive)) := by
    rw [← unpacked]
    change Float.ofScientific size false 0 = _
    rw [Float.ofScientific, dif_neg (by omega)]
    rfl
  have bits := toBits_pack .positive exponent positive normal fits (by omega)
  rw [← packed] at bits
  have isPositive := isNegative_of_toBits bits (by omega) (by omega)
  obtain ⟨isSignificand, isExponent⟩ := magnitudeOf_of_toBits bits (by omega) (by omega) (by omega)
  have power : (Decimal.magnitudeOf (Float.ofInt size)).exponent = exponent := by omega
  have significand : (Decimal.magnitudeOf (Float.ofInt size)).significand = mantissa := by omega
  refine ⟨(mantissa <<< exponent.toNat : Nat), ?_, ?_⟩
  · rw [Decimal.integral?, finite]
    have whole : 0 ≤ exponent := by omega
    simp [power, significand, isPositive, whole, UnpackedFloat.Sign.toBitVec]
  · have shifted : 2 ^ 52 * 2 ^ 11 ≤ mantissa * 2 ^ exponent.toNat :=
      Nat.mul_le_mul normal (Nat.pow_le_pow_right (by decide) (by omega))
    rw [Nat.shiftLeft_eq, Number.maxSigned]
    omega

end Workflow.Double

namespace Workflow.Intrinsic

open Decimal (Signed)

/-! ## Integer arguments -/

theorem saturate_eq_self_iff {value : Int} : saturate value = value ↔ Signed value := by
  simp only [saturate, Signed, Number.minSigned, Number.maxSigned]
  omega

theorem signed_saturate (value : Int) : Signed (saturate value) := by
  simp only [saturate, Signed, Number.minSigned, Number.maxSigned]
  omega

theorem saturate_of_large {value : Int} (large : Number.maxSigned < value) :
    saturate value = Number.maxSigned := by
  simp only [saturate, Number.minSigned, Number.maxSigned] at large ⊢
  omega

/-- An integer argument stands for itself moved into the signed range. -/
theorem integerAt_saturate {value : Int} (inRange : (Number.int value).InRange) (position : Nat) :
    integerAt position (.int value) = .ok (saturate value) := by
  by_cases fits : Signed value
  · rw [integerAt_int fits, saturate_eq_self_iff.mpr fits]
  · have large : Number.maxSigned < value := not_le.mp fun small => fits ⟨inRange.1, small⟩
    obtain ⟨whole, integral, largeWhole⟩ := Double.exists_integral?_ofInt large inRange
    have inexact : Number.toSigned? (.int value) = none := if_neg fits
    simp only [integerAt, integerOf?, inexact, Number.toFloat, integral, Option.map_some,
      saturate_of_large large, saturate_of_large largeWhole]

/-! ## Functions of integers -/

/-- What the item of a list at an index is, for an index of any size. -/
def Picks (items : List Json) (index : Int) (answer : Except Complaint Json) : Prop :=
  (∀ place : Nat, index = place → ∀ item, items[place]? = some item → answer = .ok item) ∧
    (index < 0 ∨ items.length ≤ index → answer = .error (.outOfBounds index items.length))

/-- What the pieces of a list are, for a piece size of any size: the piece at a place begins behind
as many full pieces, and there are as many pieces as begin before the end. -/
def Parts (items : List Json) (size : Int) (answer : Except Complaint Json) : Prop :=
  (size ≤ 0 → answer = .error .chunkSize) ∧
    (0 < size → ∃ pieces : List (List Json), answer = .ok (.array (pieces.map .array)) ∧
      ∀ place : Nat, pieces[place]? =
        if place * size.toNat < items.length then
          some ((items.drop (place * size.toNat)).take size.toNat)
        else none)

/-- What a range is, for integers of any size: its terms are those that are not past its end, if
these are not too many. -/
def Counts (limit : Nat) (start stop step : Int) (answer : Except Complaint Json) : Prop :=
  (step = 0 → answer = .error .zeroStep) ∧
    (step ≠ 0 → ∃ count : Nat,
      (∀ place : Nat, Admits stop step (start + place * step) ↔ place < count) ∧
      answer =
        if count ≤ limit then .ok (.array ((terms start step count).map Json.int))
        else .error (.longRange limit))

/-- What a random integer is, for bounds of any size: the selected value, which lies between
them. -/
def Selects (start stop value : Int) (answer : Except Complaint Json) : Prop :=
  (stop ≤ start → answer = .error .emptyRange) ∧
    (start < stop → start ≤ value ∧ value < stop ∧ answer = .ok (.int value))

theorem picks_itemAt (items : List Json) (index : Int) :
    Picks items index (itemAt items index) := by
  constructor
  · rintro place rfl item found
    simp [itemAt, found]
  · intro outside
    have missing : (if 0 ≤ index then items[index.toNat]? else none) = none := by
      split
      · rw [List.getElem?_eq_none_iff]
        omega
      · rfl
    rw [itemAt, missing]

theorem getElem?_chunks {α : Type} {size : Nat} (positive : 0 < size) {fuel : Nat} {items : List α}
    (enough : items.length ≤ fuel) (place : Nat) :
    (chunks size fuel items)[place]? =
      if place * size < items.length then some ((items.drop (place * size)).take size)
      else none := by
  induction fuel generalizing items place with
  | zero =>
      rw [chunks, List.getElem?_nil, if_neg (by omega)]
  | succ fuel ih =>
      cases items with
      | nil => simp [chunks]
      | cons item items =>
          cases place with
          | zero => simp [chunks]
          | succ place =>
              have fewer : ((item :: items).drop size).length ≤ fuel := by
                rw [List.length_drop]
                omega
              rw [chunks, List.getElem?_cons_succ, ih fewer, List.length_drop, List.drop_drop,
                Nat.succ_mul, Nat.add_comm size]
              · have same : place * size < (item :: items).length - size ↔
                    place * size + size < (item :: items).length := by omega
                simp only [same]
              · exact List.cons_ne_nil _ _

theorem parts_partition (items : List Json) (size : Int) :
    Parts items size (partition items size) := by
  constructor
  · intro empty
    rw [partition, if_pos empty]
  · intro positive
    exact ⟨chunks size.toNat items.length items, by rw [partition, if_neg (by omega)],
      getElem?_chunks (by omega) (Nat.le_refl _)⟩

theorem counts_range (limit : Nat) {start stop step : Int} (startFits : Signed start)
    (stopFits : Signed stop) :
    Counts limit start stop step
      ((range limit start stop step).map fun values => .array (values.map Json.int)) := by
  constructor
  · rintro rfl
    rfl
  · intro nonzero
    obtain ⟨count, counts⟩ := admits_term_iff start stop nonzero
    refine ⟨count, counts, ?_⟩
    rw [range_eq limit startFits stopFits nonzero counts]
    split <;> rfl

theorem selects_ite {start stop value : Int}
    (inside : start < stop → start ≤ value ∧ value < stop) :
    Selects start stop value (if stop ≤ start then .error .emptyRange else .ok (.int value)) := by
  constructor
  · intro empty
    rw [if_pos empty]
  · intro ordered
    rw [if_neg (not_le_of_gt ordered)]
    exact ⟨(inside ordered).1, (inside ordered).2, rfl⟩

theorem toSigned?_int (value : Int) :
    Number.toSigned? (.int value) = if Signed value then some value else none := rfl

theorem add_of_signed {left right : Int} (leftFits : Signed left) (rightFits : Signed right) :
    add (.int left) (.int right) =
      if Signed (left + right) then .ok (.int (left + right)) else .error .overflow := by
  rw [add, toSigned?_int, toSigned?_int, if_pos leftFits, if_pos rightFits]
  rfl

theorem add_of_not_signed {left right : Int} (leftInRange : (Number.int left).InRange)
    (rightInRange : (Number.int right).InRange) (large : ¬(Signed left ∧ Signed right)) :
    add (.int left) (.int right) = .ok (.float (Float.ofInt left + Float.ofInt right)) := by
  have finite := Double.isFinite_ofInt_add leftInRange rightInRange
  have sum : Number.ofFloat? (Float.ofInt left + Float.ofInt right) =
      some (.float (Float.ofInt left + Float.ofInt right)) := if_pos finite
  rw [add, toSigned?_int, toSigned?_int]
  by_cases leftFits : Signed left
  · rw [if_pos leftFits, if_neg fun rightFits => large ⟨leftFits, rightFits⟩]
    simp only [Number.toFloat, sum]
  · rw [if_neg leftFits]
    simp only [Number.toFloat, sum]

/-- The addition draws nothing and comes to what adding its arguments does. -/
theorem apply_mathAdd (config : Config) (left right : Number) (source : Random.Source) :
    (apply config "MathAdd" [.number left, .number right]).run source =
      (((add left right).map Json.number).mapError (.refused "MathAdd"), source) :=
  run_apply_of_plain rfl rfl rfl source

theorem apply_arrayGetItem (config : Config) (items : List Json) {second : Json} {index : Int}
    (isIndex : integerAt 2 second = .ok index) (source : Random.Source) :
    (apply config "ArrayGetItem" [.array items, second]).run source =
      ((itemAt items index).mapError (.refused "ArrayGetItem"), source) := by
  have plain := calc applyPlain config "ArrayGetItem" [.array items, second]
    _ = integerAt 2 second >>= itemAt items := rfl
    _ = itemAt items index := by rw [isIndex]; rfl
  rw [← plain]
  exact run_apply_of_plain rfl rfl rfl source

theorem apply_arrayPartition (config : Config) (items : List Json) {second : Json} {size : Int}
    (isSize : integerAt 2 second = .ok size) (source : Random.Source) :
    (apply config "ArrayPartition" [.array items, second]).run source =
      ((partition items size).mapError (.refused "ArrayPartition"), source) := by
  have plain := calc applyPlain config "ArrayPartition" [.array items, second]
    _ = integerAt 2 second >>= partition items := rfl
    _ = partition items size := by rw [isSize]; rfl
  rw [← plain]
  exact run_apply_of_plain rfl rfl rfl source

/-- For each integer that a document can hold, the functions act exactly on the integer moved into
the signed 64-bit range, which is the same one just in case it lies in there. So no signed integer
is changed. Two signed integers have their exact sum or none, and the sum with any other integer is
that of the doubles. -/
theorem integers_saturate (config : Config) (source : Random.Source) :
    (∀ value, saturate value = value ↔ Signed value) ∧
    (∀ left right, (Number.int left).InRange → (Number.int right).InRange →
      (apply config "MathAdd" [.int left, .int right]).run source =
        (if Signed left ∧ Signed right then
          if Signed (left + right) then .ok (.int (left + right))
          else .error (.refused "MathAdd" .overflow)
        else .ok (.number (.float (Float.ofInt left + Float.ofInt right))), source)) ∧
    (∀ items index, (Number.int index).InRange → ∃ answer, Picks items (saturate index) answer ∧
      (apply config "ArrayGetItem" [.array items, .int index]).run source =
        (answer.mapError (.refused "ArrayGetItem"), source)) ∧
    (∀ items size, (Number.int size).InRange → ∃ answer, Parts items (saturate size) answer ∧
      (apply config "ArrayPartition" [.array items, .int size]).run source =
        (answer.mapError (.refused "ArrayPartition"), source)) ∧
    (∀ start stop step, (Number.int start).InRange → (Number.int stop).InRange →
      (Number.int step).InRange → ∃ answer,
        Counts config.maxArrayRange (saturate start) (saturate stop) (saturate step) answer ∧
        (apply config "ArrayRange" [.int start, .int stop, .int step]).run source =
          (answer.mapError (.refused "ArrayRange"), source)) ∧
    (∀ start stop, (Number.int start).InRange → (Number.int stop).InRange → ∃ answer,
      Selects (saturate start) (saturate stop)
        (saturate start + source.next.1.toNat % (saturate stop - saturate start)) answer ∧
      (apply config "MathRandom" [.int start, .int stop]).run source =
        (answer.mapError (.refused "MathRandom"),
          if saturate start < saturate stop then source.next.2 else source)) ∧
    (∀ start stop seed, (Number.int start).InRange → (Number.int stop).InRange →
      (Number.int seed).InRange → ∃ answer,
        Selects (saturate start) (saturate stop)
          (seededInteger (saturate start) (saturate stop) (saturate seed)) answer ∧
        (apply config "MathRandom" [.int start, .int stop, .int seed]).run source =
          (answer.mapError (.refused "MathRandom"), source)) := by
  refine ⟨fun _ => saturate_eq_self_iff, ?sum, ?item, ?pieces, ?range, ?random, ?seeded⟩
  case sum =>
    intro left right leftInRange rightInRange
    rw [apply_mathAdd]
    by_cases fits : Signed left ∧ Signed right
    · rw [if_pos fits, add_of_signed fits.1 fits.2]
      split <;> rfl
    · rw [if_neg fits, add_of_not_signed leftInRange rightInRange fits]
      rfl
  case item =>
    intro items index inRange
    exact ⟨_, picks_itemAt items _,
      apply_arrayGetItem config items (integerAt_saturate inRange 2) source⟩
  case pieces =>
    intro items size inRange
    exact ⟨_, parts_partition items _,
      apply_arrayPartition config items (integerAt_saturate inRange 2) source⟩
  case range =>
    intro start stop step startInRange stopInRange stepInRange
    exact ⟨_, counts_range _ (signed_saturate start) (signed_saturate stop),
      apply_arrayRange_of_integerAt config (integerAt_saturate startInRange 1)
        (integerAt_saturate stopInRange 2) (integerAt_saturate stepInRange 3) source⟩
  case random =>
    intro start stop startInRange stopInRange
    have reduced (ordered : saturate start < saturate stop) :=
      reduceDraw_eq (signed_saturate start) (signed_saturate stop) ordered source.next.1
    have inside (ordered : saturate start < saturate stop) :=
      reduceDraw_mem (signed_saturate start) (signed_saturate stop) ordered source.next.1
    refine ⟨_, selects_ite fun ordered => reduced ordered ▸ inside ordered, ?_⟩
    rw [apply_mathRandom config (integerAt_saturate startInRange 1)
      (integerAt_saturate stopInRange 2)]
    by_cases ordered : saturate start < saturate stop
    · rw [if_neg (not_le_of_gt ordered), if_neg (not_le_of_gt ordered), if_pos ordered,
        reduced ordered]
      rfl
    · rw [if_pos (not_lt.mp ordered), if_pos (not_lt.mp ordered), if_neg ordered]
      rfl
  case seeded =>
    intro start stop seed startInRange stopInRange seedInRange
    refine ⟨_, selects_ite fun ordered => seededInteger_mem ordered (saturate seed), ?_⟩
    rw [apply_mathRandom_seeded config (integerAt_saturate startInRange 1)
      (integerAt_saturate stopInRange 2) (integerAt_saturate seedInRange 3)]
    split <;> rfl

/-- One more than the greatest signed integer is no sum, and a range to the greatest unsigned one
ends with the greatest signed one. -/
theorem integers_saturate_brink :
    (Number.int 9223372036854775806).InRange ∧ (Number.int 9223372036854775807).InRange ∧
      (Number.int 18446744073709551615).InRange ∧ (Number.int 1).InRange ∧
      (apply {} "MathAdd" [.int 9223372036854775807, .int 1]).run default =
        (.error (.refused "MathAdd" .overflow), default) ∧
      (apply { maxArrayRange := 2 } "ArrayRange"
          [.int 9223372036854775806, .int 18446744073709551615, .int 1]).run default =
        (.ok (.array [.int 9223372036854775806, .int 9223372036854775807]), default) := by
  have start : (Number.int 9223372036854775806).InRange := ⟨by decide, by decide⟩
  have greatest : (Number.int 9223372036854775807).InRange := ⟨by decide, by decide⟩
  have stop : (Number.int 18446744073709551615).InRange := ⟨by decide, by decide⟩
  have one : (Number.int 1).InRange := ⟨by decide, by decide⟩
  refine ⟨start, greatest, stop, one, (integers_saturate {} default).2.1 _ _ greatest one, ?_⟩
  obtain ⟨answer, counts, runs⟩ :=
    (integers_saturate { maxArrayRange := 2 } default).2.2.2.2.1 _ _ _ start stop one
  obtain ⟨count, isCount, isAnswer⟩ := counts.2 (by decide)
  have second := (isCount 1).mp (.inl (by decide))
  have third : ¬ 2 < count := fun more => by
    rcases (isCount 2).mpr more with ⟨-, past⟩ | ⟨down, -⟩
    · exact absurd past (by decide)
    · exact absurd down (by decide)
  obtain rfl : count = 2 := by omega
  rw [runs, isAnswer]
  rfl

/-- An integer beyond the signed ones becomes another one, and the sum with such an integer becomes
a double. -/
theorem integers_changed :
    (apply {} "ArrayRange" [.int 9223372036854775808, .int 9223372036854775808, .int 1]).run
        default = (.ok (.array [.int 9223372036854775807]), default) ∧
      (apply {} "MathAdd" [.int 18446744073709551615, .int 1]).run default =
        (.ok (.number (.float 18446744073709551616.0)), default) := by
  exact ⟨rfl, rfl⟩

end Workflow.Intrinsic
