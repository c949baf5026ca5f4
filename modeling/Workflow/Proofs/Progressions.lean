import Mathlib.Order.Interval.Set.Nat
import Mathlib.Tactic.Ring
import Workflow.Intrinsic.Eval
import Workflow.Proofs.Numerals

/-!
# Progressions

A range counts from its start in steps of one size until it has passed its end, until it is longer
than allowed, or until the next value is no signed 64-bit integer. Over the unbounded integers the
terms that are not past the end are the first ones of a progression, and the end itself is a signed
64-bit integer. So a term that does not fit is past the end already, and a range is cut short by its
end alone.
-/

namespace Workflow.Intrinsic

open Decimal (Signed)

/-- A value is not past the end of a range, in the direction of its step. -/
def Admits (stop step value : Int) : Prop :=
  (0 < step ∧ value ≤ stop) ∨ (step < 0 ∧ stop ≤ value)

/-- The places of the terms that are not past the end, over the unbounded integers. -/
def termPlaces (start stop step : Int) : Set Nat :=
  {place | Admits stop step (start + place * step)}

/-- The first terms of a progression. -/
def terms (start step : Int) (count : Nat) : List Int :=
  (List.range count).map fun place : Nat => start + place * step

section Range

variable {start stop step : Int} {count : Nat}

theorem terms_succ (start step : Int) (count : Nat) :
    terms start step (count + 1) = start :: terms (start + step) step count := by
  rw [terms, terms, List.range_succ_eq_map, List.map_cons, List.map_map]
  congr 1
  · simp
  · refine List.map_congr_left fun place _ => ?_
    simp only [Function.comp_apply, Nat.succ_eq_add_one, Nat.cast_add, Nat.cast_one]
    ring

/-- The terms that are not past the end are the first ones of the progression. -/
theorem admits_term_iff (start stop : Int) (nonzero : step ≠ 0) :
    ∃ count : Nat, ∀ place : Nat, Admits stop step (start + place * step) ↔ place < count := by
  rcases lt_or_gt_of_ne nonzero with down | up
  · refine ⟨((start - stop) / (-step) + 1).toNat, fun place => ?_⟩
    have fits := Int.le_ediv_iff_mul_le (a := place) (b := start - stop) (neg_pos.mpr down)
    rw [mul_neg] at fits
    simp only [Admits, down, true_and, not_lt_of_gt down, false_and, false_or]
    omega
  · refine ⟨((stop - start) / step + 1).toNat, fun place => ?_⟩
    have fits := Int.le_ediv_iff_mul_le (a := place) (b := stop - start) up
    simp only [Admits, up, true_and, not_lt_of_gt up, false_and, or_false]
    omega

/-- A value next to one that is admitted is past the end if it does not fit. -/
theorem not_admits_of_not_signed {current : Int} (stopFits : Signed stop) (fits : Signed current)
    (outside : ¬ Signed (current + step)) : ¬ Admits stop step (current + step) := by
  rcases stopFits with ⟨minStop, maxStop⟩
  rcases fits with ⟨minCurrent, maxCurrent⟩
  rintro (⟨up, below⟩ | ⟨down, above⟩)
  · exact outside ⟨by omega, by omega⟩
  · exact outside ⟨by omega, by omega⟩

theorem rangeFrom_of_past {limit left : Nat} {current : Int} (past : ¬ Admits stop step current) :
    rangeFrom limit stop step left current = .ok [] := by
  rw [rangeFrom.eq_def]
  exact if_neg past

theorem rangeFrom_zero {limit : Nat} {current : Int} (admitted : Admits stop step current) :
    rangeFrom limit stop step 0 current = .error (.longRange limit) := by
  rw [rangeFrom]
  exact if_pos admitted

theorem rangeFrom_succ {limit left : Nat} {current : Int} (admitted : Admits stop step current) :
    rangeFrom limit stop step (left + 1) current =
      if Signed (current + step) then
        (rangeFrom limit stop step left (current + step)).map (current :: ·)
      else .ok [current] := by
  rw [rangeFrom]
  exact if_pos admitted

/-- The loop of a range lists the terms that are not past the end, or finds that there are more of
them than are left to be allowed. -/
theorem rangeFrom_eq {current : Int} (limit left : Nat) (stopFits : Signed stop)
    (fits : Signed current)
    (counts : ∀ place : Nat, Admits stop step (current + place * step) ↔ place < count) :
    rangeFrom limit stop step left current =
      if count ≤ left then .ok (terms current step count) else .error (.longRange limit) := by
  have first : Admits stop step current ↔ 0 < count := by simpa using counts 0
  induction left generalizing current count with
  | zero =>
      cases count with
      | zero => exact rangeFrom_of_past fun admitted => Nat.lt_irrefl 0 (first.mp admitted)
      | succ count =>
          rw [rangeFrom_zero (first.mpr (Nat.succ_pos count)), if_neg (Nat.not_succ_le_zero count)]
  | succ left ih =>
      cases count with
      | zero => exact rangeFrom_of_past fun admitted => Nat.lt_irrefl 0 (first.mp admitted)
      | succ count =>
          have later : ∀ place : Nat,
              Admits stop step (current + step + place * step) ↔ place < count := by
            intro place
            have shifted : current + step + place * step = current + (place + 1 : Nat) * step := by
              push_cast
              ring
            rw [shifted, counts, Nat.succ_lt_succ_iff]
          have next : Admits stop step (current + step) ↔ 0 < count := by simpa using later 0
          rw [rangeFrom_succ (first.mpr (Nat.succ_pos count)), terms_succ]
          by_cases nextFits : Signed (current + step)
          · rw [if_pos nextFits, ih nextFits later next]
            by_cases few : count ≤ left
            · rw [if_pos few, if_pos (Nat.succ_le_succ few)]
              rfl
            · rw [if_neg few, if_neg fun fewer => few (Nat.le_of_succ_le_succ fewer)]
              rfl
          · -- The next value overflows, so it is past the end, and this term is the last one.
            have past := not_admits_of_not_signed stopFits fits nextFits
            obtain rfl : count = 0 := Nat.eq_zero_of_not_pos (next.not.mp past)
            rw [if_neg nextFits, if_pos (Nat.succ_le_succ (Nat.zero_le left))]
            rfl

/-- What a range comes to when so many terms are not past its end. -/
theorem range_eq (limit : Nat) (startFits : Signed start) (stopFits : Signed stop)
    (nonzero : step ≠ 0)
    (counts : ∀ place : Nat, Admits stop step (start + place * step) ↔ place < count) :
    range limit start stop step =
      if count ≤ limit then .ok (terms start step count) else .error (.longRange limit) := by
  rw [range, if_neg nonzero]
  exact rangeFrom_eq limit limit stopFits startFits counts

end Range

/-! ## The function -/

theorem integerAt_int {value : Int} (fits : Signed value) (position : Nat) :
    integerAt position (.int value) = .ok value := by
  have exact : Number.toSigned? (.int value) = some value := if_pos fits
  simp only [integerAt, integerOf?, exact]

/-- The range function draws nothing and comes to what the range of its arguments' integers does. -/
theorem apply_arrayRange_of_integerAt (config : Config) {first second third : Json}
    {start stop step : Int} (isStart : integerAt 1 first = .ok start)
    (isStop : integerAt 2 second = .ok stop) (isStep : integerAt 3 third = .ok step)
    (source : Random.Source) :
    (apply config "ArrayRange" [first, second, third]).run source =
      (((range config.maxArrayRange start stop step).map fun values =>
        Json.array (values.map Json.int)).mapError (Error.refused "ArrayRange"), source) := by
  have plain : applyPlain config "ArrayRange" [first, second, third] =
      (range config.maxArrayRange start stop step).map fun values =>
        Json.array (values.map Json.int) := by
    simp only [applyPlain, isStart, isStop, isStep, bind, Except.bind, pure, Except.pure]
    cases range config.maxArrayRange start stop step <;> rfl
  rw [← plain]
  exact run_apply_of_plain rfl rfl rfl source

theorem apply_arrayRange (config : Config) {start stop step : Int} (startFits : Signed start)
    (stopFits : Signed stop) (stepFits : Signed step) (source : Random.Source) :
    (apply config "ArrayRange" [.int start, .int stop, .int step]).run source =
      (((range config.maxArrayRange start stop step).map fun values =>
        Json.array (values.map Json.int)).mapError (Error.refused "ArrayRange"), source) :=
  apply_arrayRange_of_integerAt config (integerAt_int startFits 1) (integerAt_int stopFits 2)
    (integerAt_int stepFits 3) source

/-- A range without a step is refused. Every other one is made of those terms of the unbounded
progression that are not past its end, however close that is to where integers end, or it is refused
for having more of them than allowed. -/
theorem apply_arrayRange_terms (config : Config) {start stop step : Int} (startFits : Signed start)
    (stopFits : Signed stop) (stepFits : Signed step) (source : Random.Source) :
    (step = 0 →
      (apply config "ArrayRange" [.int start, .int stop, .int step]).run source =
        (.error (.refused "ArrayRange" .zeroStep), source)) ∧
    (step ≠ 0 →
      (termPlaces start stop step).Finite ∧
      ((termPlaces start stop step).ncard ≤ config.maxArrayRange →
        (apply config "ArrayRange" [.int start, .int stop, .int step]).run source =
          (.ok (.array ((terms start step (termPlaces start stop step).ncard).map Json.int)),
            source)) ∧
      (config.maxArrayRange < (termPlaces start stop step).ncard →
        (apply config "ArrayRange" [.int start, .int stop, .int step]).run source =
          (.error (.refused "ArrayRange" (.longRange config.maxArrayRange)), source))) := by
  rw [apply_arrayRange config startFits stopFits stepFits]
  constructor
  · rintro rfl
    rfl
  · intro nonzero
    rcases admits_term_iff start stop nonzero with ⟨count, counts⟩
    have places : termPlaces start stop step = Set.Iio count := Set.ext counts
    rw [places, Set.ncard_Iio_nat, range_eq config.maxArrayRange startFits stopFits nonzero counts]
    refine ⟨Set.finite_Iio count, fun few => ?_, fun many => ?_⟩
    · rw [if_pos few]
      rfl
    · rw [if_neg (Nat.not_le_of_lt many)]
      rfl

/-- The last two integers, counted to the very end in steps that lead past it. -/
theorem apply_arrayRange_terms_brink :
    Signed 9223372036854775806 ∧ Signed 9223372036854775807 ∧ Signed 1 ∧
      (apply { maxArrayRange := 2 } "ArrayRange"
          [.int 9223372036854775806, .int 9223372036854775807, .int 1]).run default =
        (.ok (.array [.int 9223372036854775806, .int 9223372036854775807]), default) := by
  have fits : Signed 9223372036854775806 ∧ Signed 9223372036854775807 ∧ Signed 1 := by decide
  have places : termPlaces 9223372036854775806 9223372036854775807 1 = Set.Iio 2 := by
    ext place
    simp only [termPlaces, Admits, Set.mem_ofPred_eq, Set.mem_Iio]
    omega
  have settled := (apply_arrayRange_terms { maxArrayRange := 2 } fits.1 fits.2.1 fits.2.2
    default).2 (by decide)
  rw [places, Set.ncard_Iio_nat] at settled
  exact ⟨fits.1, fits.2.1, fits.2.2, settled.2.1 (Nat.le_refl 2)⟩

end Workflow.Intrinsic
