import Workflow.Proofs.Normals

/-!
# Delays before retries

With a first delay and a factor that are powers of two, every delay is computed without rounding:
it is the product of the first delay and the power of the factor, up to the double nearest to the
cap. What the doubles compute is followed only to there. A delay of `2 ^ 64` seconds or more is no
span any more and becomes no delay at all, so the delays grow with the number of retries just as
long as they are spans.
-/

namespace Workflow

/-! ## Powers -/

/-- Repeated squaring adds up the exponents of the powers of two that it multiplies. -/
theorem powerFrom_toFloat {fuel exponent : Nat} (few : exponent < 2 ^ fuel) (result base : Nat) :
    powerFrom fuel (Double.Normal.power result).toFloat (Double.Normal.power base).toFloat
        exponent =
      (Double.Normal.power (result + base * exponent)).toFloat := by
  induction fuel generalizing exponent result base with
  | zero =>
    obtain rfl : exponent = 0 := by omega
    rfl
  | succ fuel ih =>
    have half : exponent / 2 < 2 ^ fuel := by
      rw [Nat.pow_succ] at few
      omega
    have multiplied : (if exponent % 2 = 1 then
        (Double.Normal.power result).toFloat * (Double.Normal.power base).toFloat
          else (Double.Normal.power result).toFloat) =
        (Double.Normal.power (result + base * (exponent % 2))).toFloat := by
      rcases Nat.mod_two_eq_zero_or_one exponent with even | odd
      · rw [even, if_neg (by decide)]
        rfl
      · rw [odd, if_pos rfl, Double.Normal.power_mul_power, Nat.mul_one]
    have total : result + base * exponent =
        result + base * (exponent % 2) + (base + base) * (exponent / 2) := by
      conv_lhs => rw [← Nat.mod_add_div exponent 2]
      ring
    rw [powerFrom]
    simp only [multiplied]
    split
    next last => rw [total, last, Nat.mul_zero, Nat.add_zero]
    next more => rw [Double.Normal.power_mul_power, ih half, total]

theorem power_ofNat {exponent : Nat} (few : exponent < 2 ^ 64) (step : Nat) :
    power (Float.ofNat (2 ^ step)) exponent = (Double.Normal.power (step * exponent)).toFloat := by
  have one : (1.0 : Float) = (Double.Normal.power 0).toFloat := rfl
  rw [power, one, Double.ofNat_two_pow, powerFrom_toFloat few, Nat.zero_add]

/-! ## Spans -/

theorem ofNanos_seconds (whole : Nat) : Span.ofNanos (whole * 1000000000) = ⟨whole, 0⟩ := by
  rw [Span.ofNanos, Nat.mul_div_cancel _ (by decide), Nat.mul_mod_left]

/-- The nanoseconds of a whole number of seconds are exact, wherever its binary point is. -/
theorem nanos_of_size {significand place point whole : Nat}
    (isWhole : significand * 2 ^ place = whole * 2 ^ point) :
    (if 0 ≤ (place : Int) - point then
        (significand * 1000000000) <<< ((place : Int) - point).toNat
      else roundedQuotient (significand * 1000000000) (1 <<< ((place : Int) - point).natAbs)) =
      whole * 1000000000 := by
  split
  next above =>
    have split : 2 ^ place = 2 ^ (place - point) * 2 ^ point := by
      rw [← Nat.pow_add]
      congr 1
      omega
    rw [split, ← Nat.mul_assoc] at isWhole
    have shifted := Nat.eq_of_mul_eq_mul_right (Nat.two_pow_pos _) isWhole
    have amount : ((place : Int) - point).toNat = place - point := by omega
    rw [amount, Nat.shiftLeft_eq, Nat.mul_right_comm, shifted]
  next below =>
    have split : 2 ^ point = 2 ^ (point - place) * 2 ^ place := by
      rw [← Nat.pow_add]
      congr 1
      omega
    rw [split, ← Nat.mul_assoc] at isWhole
    have shifted := Nat.eq_of_mul_eq_mul_right (Nat.two_pow_pos _) isWhole
    have amount : ((place : Int) - point).natAbs = point - place := by omega
    rw [amount, Nat.shiftLeft_eq, Nat.one_mul, shifted, Nat.mul_right_comm,
      Double.roundedQuotient_mul_self (Nat.two_pow_pos _)]

section Whole

open Double

variable {normal : Normal} {whole : Nat} (isWhole : normal.size = whole * 2 ^ 1074)

include isWhole

theorem limit_le_iff : (Normal.power 64).size ≤ normal.size ↔ 2 ^ 64 ≤ whole := by
  rw [isWhole, Normal.size_power, Nat.mul_le_mul_right_iff (Nat.two_pow_pos _)]

theorem le_of_not_fits (large : ¬ normal.Fits) : 2 ^ 64 ≤ whole := by
  rw [← limit_le_iff isWhole]
  apply Nat.le_of_lt
  rw [Normal.size_lt_iff]
  left
  rw [Normal.Fits] at large
  simp only [Normal.power]
  omega

/-- A whole number of seconds is that span, if it is one. -/
theorem ofSeconds?_toFloat :
    Span.ofSeconds? normal.toFloat = if whole < 2 ^ 64 then some ⟨whole, 0⟩ else none := by
  have limit : (18446744073709551616.0 : Float) = (Normal.power 64).toFloat := rfl
  have limitFits : (Normal.power 64).Fits := by decide
  by_cases fits : normal.Fits
  · have magnitude := Normal.magnitudeOf_toFloat fits
    rw [Span.ofSeconds?]
    simp only [Normal.isFinite_toFloat, fits, limit, Normal.not_toFloat_lt_zero,
      Normal.toFloat_le_iff limitFits fits, limit_le_iff isWhole, decide_true, decide_false,
      Bool.not_true, Bool.false_or, decide_eq_true_eq]
    by_cases small : whole < 2 ^ 64
    · rw [if_neg (by omega), if_pos small, magnitude.1, magnitude.2, ← ofNanos_seconds]
      exact congrArg (fun nanos => some (Span.ofNanos nanos)) (@nanos_of_size _ _ 1074 _ isWhole)
    · rw [if_pos (by omega), if_neg small]
  · have large := le_of_not_fits isWhole fits
    rw [if_neg (by omega), Span.ofSeconds?, Normal.isFinite_toFloat]
    simp [fits]

end Whole

/-! ## Delays -/

namespace Retrier

/-- The delay in seconds as the definition of a retrier has it: what the first delay has grown to,
up to the double nearest to the cap. -/
def exactDelay (retrier : Retrier) (factor used : Nat) : Nat :=
  let grown := retrier.interval * factor ^ used
  match retrier.maxDelaySeconds with
  | some cap => min grown (Double.nearest cap)
  | none => grown

/-- A whole number of seconds as a delay, if it is a span. -/
def delayOf (whole : Nat) : Span := if whole < 2 ^ 64 then ⟨whole, 0⟩ else .zero

theorem spanOf_toFloat {normal : Double.Normal} {whole : Nat}
    (isWhole : normal.size = whole * 2 ^ 1074) : spanOf normal.toFloat = delayOf whole := by
  rw [spanOf, ofSeconds?_toFloat isWhole, delayOf]
  split <;> rfl

/-- The cap acts on doubles as it does on integers, as far as those are spans. -/
theorem spanOf_atMost (exponent cap : Nat) :
    spanOf (atMost (Double.Normal.power exponent).toFloat (Float.ofNat cap)) =
      delayOf (min (2 ^ exponent) (Double.nearest cap)) := by
  have grown := spanOf_toFloat (Double.Normal.size_power exponent)
  rcases Nat.eq_zero_or_pos cap with rfl | positive
  · have zero : Float.ofNat 0 = 0.0 := rfl
    have nothing : Double.nearest 0 = 0 := rfl
    rw [atMost, Double.Normal.isNaN_toFloat, zero, nothing, Nat.min_zero]
    simp only [Double.Normal.zero_lt_toFloat, Bool.false_or, decide_true, if_true]
    rfl
  · obtain ⟨limit, isLimit, isSize⟩ := Double.exists_ofNat_eq_toFloat positive
    have below : limit.size < (Double.Normal.power exponent).size ↔
        Double.nearest cap < 2 ^ exponent := by
      rw [isSize, Double.Normal.size_power, Nat.mul_lt_mul_right (Nat.two_pow_pos _)]
    rw [atMost, Double.Normal.isNaN_toFloat, isLimit]
    simp only [Double.Normal.toFloat_lt_iff, below, Bool.false_or, decide_eq_true_eq]
    by_cases capped : Double.nearest cap < 2 ^ exponent
    · rw [Nat.min_eq_right (Nat.le_of_lt capped)]
      by_cases fits : limit.Fits
      · rw [if_pos ⟨fits, capped⟩, spanOf_toFloat isSize]
      · have large := le_of_not_fits isSize fits
        rw [if_neg fun both => fits both.1, grown, delayOf, delayOf, if_neg (by omega),
          if_neg (by omega)]
    · rw [if_neg fun both => capped both.2, Nat.min_eq_left (Nat.not_lt.mp capped), grown]

/-- Beyond the spans it makes no difference how far a delay has grown. -/
theorem delayOf_min_two_pow {exponent exponent' : Nat} (large : 64 ≤ exponent)
    (large' : 64 ≤ exponent') (cap : Nat) :
    delayOf (min (2 ^ exponent) cap) = delayOf (min (2 ^ exponent') cap) := by
  have beyond := Nat.pow_le_pow_right (show 0 < 2 by decide) large
  have beyond' := Nat.pow_le_pow_right (show 0 < 2 by decide) large'
  by_cases small : cap < 2 ^ 64
  · rw [Nat.min_eq_right (by omega), Nat.min_eq_right (by omega)]
  · rw [delayOf, delayOf, if_neg (by omega), if_neg (by omega)]

theorem toNanos_delayOf (whole : Nat) :
    (delayOf whole).toNanos = if whole < 2 ^ 64 then whole * 1000000000 else 0 := by
  rw [delayOf]
  split
  · exact Nat.add_zero _
  · rfl

/-- Of two delays the longer one is not shorter as a span, unless only the shorter one is a span. -/
theorem toNanos_delayOf_le_iff {short long : Nat} (ordered : short ≤ long)
    (positive : 2 ^ 64 ≤ long → 0 < short) :
    (delayOf short).toNanos ≤ (delayOf long).toNanos ↔ long < 2 ^ 64 ∨ 2 ^ 64 ≤ short := by
  rw [toNanos_delayOf, toNanos_delayOf]
  split <;> split <;> omega

section Powers

variable {retrier : Retrier} {start step : Nat} (isInterval : retrier.interval = 2 ^ start)
  (isRate : retrier.rate = Float.ofNat (2 ^ step))

include isInterval in
theorem exactDelay_eq (used : Nat) :
    retrier.exactDelay (2 ^ step) used =
      match retrier.maxDelaySeconds with
      | some cap => min (2 ^ (start + step * used)) (Double.nearest cap)
      | none => 2 ^ (start + step * used) := by
  rw [exactDelay, isInterval, ← Nat.pow_mul, ← Nat.pow_add]

include isInterval in
theorem exactDelay_mono {earlier later : Nat} (ordered : earlier ≤ later) :
    retrier.exactDelay (2 ^ step) earlier ≤ retrier.exactDelay (2 ^ step) later := by
  have grows : 2 ^ (start + step * earlier) ≤ 2 ^ (start + step * later) :=
    Nat.pow_le_pow_right (by decide) (Nat.add_le_add_left (Nat.mul_le_mul_left _ ordered) _)
  rw [exactDelay_eq isInterval, exactDelay_eq isInterval]
  cases retrier.maxDelaySeconds with
  | none => exact grows
  | some cap =>
    dsimp only
    omega

include isInterval in
theorem exactDelay_pos_of_large {earlier later : Nat}
    (large : 2 ^ 64 ≤ retrier.exactDelay (2 ^ step) later) :
    0 < retrier.exactDelay (2 ^ step) earlier := by
  have positive := Nat.two_pow_pos (start + step * earlier)
  rw [exactDelay_eq isInterval] at large ⊢
  cases isCap : retrier.maxDelaySeconds with
  | none => exact positive
  | some cap =>
    rw [isCap] at large
    dsimp only at large ⊢
    omega

include isInterval in
/-- A delay is a span as long as it has not grown too far, and always under a cap that is one. -/
theorem exactDelay_lt_iff (used : Nat) :
    retrier.exactDelay (2 ^ step) used < 2 ^ 64 ↔
      start + step * used < 64 ∨ ∃ cap ∈ retrier.maxDelaySeconds, cap < 2 ^ 64 - 2 ^ 10 := by
  have grown : 2 ^ (start + step * used) < 2 ^ 64 ↔ start + step * used < 64 :=
    Nat.pow_lt_pow_iff_right (by decide)
  rw [exactDelay_eq isInterval]
  cases retrier.maxDelaySeconds with
  | none => simpa using grown
  | some cap =>
    simp only [Option.mem_def, Option.some_inj, exists_eq_left']
    rw [min_lt_iff, grown, Double.nearest_lt_iff]

include isInterval isRate

theorem spanOf_baseDelay (used : Nat) :
    spanOf (retrier.baseDelay used) = delayOf (retrier.exactDelay (2 ^ step) used) := by
  have few : min used maxExponent < 2 ^ 64 := by
    simp only [maxExponent]
    omega
  have grown : Float.ofNat retrier.interval * power retrier.rate (min used maxExponent) =
      (Double.Normal.power (start + step * min used maxExponent)).toFloat := by
    rw [isInterval, isRate, Double.ofNat_two_pow, power_ofNat few, Double.Normal.power_mul_power]
  -- Exponents that are cut off are beyond the spans before and after that.
  have cut (cap : Nat) : delayOf (min (2 ^ (start + step * min used maxExponent)) cap) =
      delayOf (min (2 ^ (start + step * used)) cap) := by
    by_cases within : used ≤ maxExponent
    · rw [Nat.min_eq_left within]
    · by_cases constant : step = 0
      · rw [constant, Nat.zero_mul, Nat.zero_mul]
      · rw [Nat.min_eq_right (show maxExponent ≤ used by omega)]
        apply delayOf_min_two_pow
        · have := Nat.mul_le_mul_right maxExponent (show 1 ≤ step by omega)
          simp only [maxExponent] at *
          omega
        · have := Nat.mul_le_mul_right used (show 1 ≤ step by omega)
          simp only [maxExponent] at *
          omega
  rw [baseDelay, exactDelay_eq isInterval, grown]
  cases retrier.maxDelaySeconds with
  | none =>
    have uncapped :=
      cut (max (2 ^ (start + step * min used maxExponent)) (2 ^ (start + step * used)))
    rw [Nat.min_eq_left (Nat.le_max_left _ _), Nat.min_eq_left (Nat.le_max_right _ _)] at uncapped
    dsimp only
    rw [spanOf_toFloat (Double.Normal.size_power _), uncapped]
  | some cap =>
    dsimp only
    rw [spanOf_atMost, cut]

end Powers

theorem run_delay {retrier : Retrier} (steady : retrier.jitters = false) (used : Nat)
    (source : Random.Source) :
    (retrier.delay used).run source = (spanOf (retrier.baseDelay used), source) := by
  change retrier.delay used source = _
  rw [delay, steady]
  rfl

/-- A retrier without jitter whose first delay and factor are powers of two waits for exactly the
product, up to the double nearest to the cap, as long as that is a span, and not at all from
`2 ^ 64` seconds on. So no delay is shorter than an earlier one just as long as none of `2 ^ 64`
seconds follows a shorter one. This is so for all numbers of retries if the delays do not grow or
the cap is a span as a double, and otherwise it is not. -/
theorem delay_mono_iff {retrier : Retrier} {start step : Nat} (steady : retrier.jitters = false)
    (isInterval : retrier.interval = 2 ^ start) (isRate : retrier.rate = Float.ofNat (2 ^ step))
    (source : Random.Source) :
    (∀ used, (retrier.delay used).run source =
      (delayOf (retrier.exactDelay (2 ^ step) used), source)) ∧
    (∀ earlier later, earlier ≤ later →
      (((retrier.delay earlier).run source).1.toNanos ≤
          ((retrier.delay later).run source).1.toNanos ↔
        retrier.exactDelay (2 ^ step) later < 2 ^ 64 ∨
          2 ^ 64 ≤ retrier.exactDelay (2 ^ step) earlier)) ∧
    ((∀ earlier later, earlier ≤ later →
      ((retrier.delay earlier).run source).1.toNanos ≤
        ((retrier.delay later).run source).1.toNanos) ↔
      step = 0 ∨ 64 ≤ start ∨ ∃ cap ∈ retrier.maxDelaySeconds, cap < 2 ^ 64 - 2 ^ 10) := by
  have delays (used : Nat) : (retrier.delay used).run source =
      (delayOf (retrier.exactDelay (2 ^ step) used), source) := by
    rw [run_delay steady, spanOf_baseDelay isInterval isRate]
  have ordered {earlier later : Nat} (before : earlier ≤ later) :
      ((retrier.delay earlier).run source).1.toNanos ≤
          ((retrier.delay later).run source).1.toNanos ↔
        retrier.exactDelay (2 ^ step) later < 2 ^ 64 ∨
          2 ^ 64 ≤ retrier.exactDelay (2 ^ step) earlier := by
    rw [delays, delays]
    exact toNanos_delayOf_le_iff (exactDelay_mono isInterval before)
      (exactDelay_pos_of_large isInterval)
  refine ⟨delays, fun _ _ => ordered, ?necessary, ?sufficient⟩
  case necessary =>
    intro monotone
    have brink := (ordered (Nat.zero_le 64)).mp (monotone 0 64 (Nat.zero_le 64))
    rw [← Nat.not_lt, exactDelay_lt_iff isInterval, exactDelay_lt_iff isInterval] at brink
    by_cases capped : ∃ cap ∈ retrier.maxDelaySeconds, cap < 2 ^ 64 - 2 ^ 10
    · exact .inr (.inr capped)
    · simp only [capped, or_false] at brink
      omega
  case sufficient =>
    intro sufficient earlier later before
    rw [ordered before, ← Nat.not_lt, exactDelay_lt_iff isInterval, exactDelay_lt_iff isInterval]
    rcases sufficient with rfl | large | capped
    · rw [Nat.zero_mul, Nat.zero_mul]
      exact Classical.em _
    · by_cases capped : ∃ cap ∈ retrier.maxDelaySeconds, cap < 2 ^ 64 - 2 ^ 10
      · exact .inl (.inr capped)
      · simp only [capped, or_false]
        omega
    · exact .inl (.inr capped)

/-- A delay that doubles is half of what is no span any more before it is nothing. -/
theorem delay_mono_iff_doubling :
    ∃ retrier : Retrier, retrier.jitters = false ∧ retrier.interval = 2 ^ 0 ∧
      retrier.rate = Float.ofNat (2 ^ 1) ∧
      (retrier.delay 63).run default = (⟨2 ^ 63, 0⟩, default) ∧
      (retrier.delay 64).run default = (.zero, default) := by
  have rate : ({ errorEquals := ["States.ALL"] } : Retrier).rate = Float.ofNat (2 ^ 1) := rfl
  obtain ⟨delays, -, -⟩ := delay_mono_iff rfl (show _ = 2 ^ 0 from rfl) rate default
  exact ⟨_, rfl, rfl, rate, delays 63, delays 64⟩

/-- The cap does not help if the double nearest to it is no span. -/
theorem delay_drops :
    ∃ retrier : Retrier, retrier.jitters = false ∧ retrier.interval = 1 ∧ retrier.rate = 2.0 ∧
      retrier.maxDelaySeconds = some 18446744073709551615 ∧
      ((retrier.delay 64).run default).1.toNanos < ((retrier.delay 63).run default).1.toNanos :=
  ⟨{ errorEquals := ["States.ALL"], maxDelaySeconds := some 18446744073709551615 }, rfl, rfl, rfl,
    rfl, by decide +kernel⟩

end Retrier

end Workflow
