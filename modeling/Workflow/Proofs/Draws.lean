import Workflow.Proofs.Progressions

/-!
# Draws

A random integer is 64 drawn bits reduced modulo the span of its range, moved into the signed
64-bit integers, and added to the start of the range with wraparound. The span itself may be no
signed 64-bit integer, and then neither need the reduced bits be one. Both wraparounds cancel out:
they change a value by multiples of `2 ^ 64`, and the sum without them is a signed 64-bit integer
already.

Every word can be drawn, since the mixing generator permutes the words: each of its steps is undone,
a product by multiplying with the inverse of the factor, a mixture with the word's own higher bits
by mixing these in once more.
-/

namespace Workflow.Random

/-! ## Words that can be drawn -/

/-- A word can be found that comes to any given one when its own higher bits are mixed in, if three
times the distance leads past the word. -/
theorem exists_xor_shiftRight (places : Nat) (far : 64 ≤ 3 * places) (mixed : BitVec 64) :
    ∃ word : BitVec 64, word ^^^ (word >>> places) = mixed := by
  refine ⟨mixed ^^^ (mixed >>> places) ^^^ (mixed >>> (2 * places)), ?_⟩
  ext bit inside
  -- The bits at each distance stand in the sum twice, but for those three times as far away.
  have past : mixed.getLsbD (2 * places + (places + bit)) = false :=
    BitVec.getLsbD_of_ge _ _ (by omega)
  have twice : places + (places + bit) = 2 * places + bit := by omega
  simp only [BitVec.getElem_xor, BitVec.getElem_ushiftRight, BitVec.getLsbD_xor,
    BitVec.getLsbD_ushiftRight, twice, past]
  simp

theorem exists_mul (factor inverse : UInt64) (undoes : inverse * factor = 1) (product : UInt64) :
    ∃ word, word * factor = product :=
  ⟨product * inverse, by rw [UInt64.mul_assoc, undoes, UInt64.mul_one]⟩

theorem exists_mix (drawn : UInt64) : ∃ value, mix value = drawn := by
  obtain ⟨last, isLast⟩ := exists_xor_shiftRight 31 (by decide) drawn.toBitVec
  obtain ⟨second, isSecond⟩ :=
    exists_mul 0x94D049BB133111EB 0x319642B2D24D8EC3 (by decide)
      (UInt64.ofBitVec last)
  obtain ⟨between, isBetween⟩ := exists_xor_shiftRight 27 (by decide) second.toBitVec
  obtain ⟨first, isFirst⟩ :=
    exists_mul 0xBF58476D1CE4E5B9 0x96DE1B173F119089 (by decide)
      (UInt64.ofBitVec between)
  obtain ⟨value, isValue⟩ := exists_xor_shiftRight 30 (by decide) first.toBitVec
  have mixedFirst : UInt64.ofBitVec value ^^^ (UInt64.ofBitVec value >>> 30) = first :=
    UInt64.eq_of_toBitVec_eq isValue
  have mixedSecond : UInt64.ofBitVec between ^^^ (UInt64.ofBitVec between >>> 27) = second :=
    UInt64.eq_of_toBitVec_eq isBetween
  have mixedLast : UInt64.ofBitVec last ^^^ (UInt64.ofBitVec last >>> 31) = drawn :=
    UInt64.eq_of_toBitVec_eq isLast
  refine ⟨UInt64.ofBitVec value, ?_⟩
  simp only [mix, mixedFirst, isFirst, mixedSecond, isSecond, mixedLast]

/-- Every word is the next draw of some source. -/
theorem exists_next (draw : UInt64) : ∃ source : Source, source.next.1 = draw := by
  obtain ⟨value, mixed⟩ := exists_mix draw
  refine ⟨.counter (value - goldenStep), ?_⟩
  rw [Source.next, UInt64.sub_add_cancel, mixed]

/-! ## Even draws -/

theorem below_lt {range : Nat} (positive : 0 < range) (fuel : Nat) (source : Source) :
    (Source.below fuel range source).1 < range := by
  induction fuel generalizing source with
  | zero => exact positive
  | succ fuel ih =>
      rw [Source.below]
      dsimp only
      split
      · have small : source.next.1.toNat * range < wordCount * range :=
          Nat.mul_lt_mul_of_pos_right source.next.1.toNat_lt positive
        exact Nat.div_lt_of_lt_mul small
      · exact ih _

end Workflow.Random

namespace Workflow.Intrinsic

open Decimal (Signed)

/-! ## Wraparound -/

theorem wrapSigned_of_signed {value : Int} (fits : Signed value) : wrapSigned value = value := by
  rcases fits with ⟨low, high⟩
  simp only [Number.minSigned, Number.maxSigned] at low high
  apply Int.bmod_eq_of_le
  · simp only [Random.wordCount]
    omega
  · simp only [Random.wordCount]
    omega

theorem wrapSigned_add_wrapSigned (left right : Int) :
    wrapSigned (left + wrapSigned right) = wrapSigned (left + right) := by
  simp only [wrapSigned, Int.add_bmod_bmod]

section Reduction

variable {start stop : Int}

/-- Reduced to a range, a draw is the start of the range and the remainder by its span. -/
theorem reduceDraw_eq (startFits : Signed start) (stopFits : Signed stop) (ordered : start < stop)
    (draw : UInt64) : reduceDraw start stop draw = start + draw.toNat % (stop - start) := by
  have low := Int.emod_nonneg draw.toNat (show stop - start ≠ 0 by omega)
  have high := Int.emod_lt_of_pos draw.toNat (show 0 < stop - start by omega)
  rw [reduceDraw, wrapSigned_add_wrapSigned]
  refine wrapSigned_of_signed ⟨?_, ?_⟩
  · have := startFits.1
    omega
  · have := stopFits.2
    omega

theorem reduceDraw_mem (startFits : Signed start) (stopFits : Signed stop) (ordered : start < stop)
    (draw : UInt64) : start ≤ reduceDraw start stop draw ∧ reduceDraw start stop draw < stop := by
  have low := Int.emod_nonneg draw.toNat (show stop - start ≠ 0 by omega)
  have high := Int.emod_lt_of_pos draw.toNat (show 0 < stop - start by omega)
  rw [reduceDraw_eq startFits stopFits ordered]
  omega

/-- Every integer of a range is that of its distance from the start, which is a word. -/
theorem exists_reduceDraw (startFits : Signed start) (stopFits : Signed stop) {value : Int}
    (above : start ≤ value) (before : value < stop) :
    ∃ draw : UInt64, reduceDraw start stop draw = value := by
  have bounds := And.intro startFits.1 stopFits.2
  simp only [Number.minSigned, Number.maxSigned] at bounds
  have isWord : (value - start).toNat < UInt64.size := by
    simp only [UInt64.size]
    omega
  refine ⟨UInt64.ofNat (value - start).toNat, ?_⟩
  rw [reduceDraw_eq startFits stopFits (by omega), UInt64.toNat_ofNat_of_lt' isWord,
    Int.toNat_of_nonneg (by omega), Int.emod_eq_of_lt (by omega) (by omega)]
  omega

theorem seededInteger_mem (ordered : start < stop) (seed : Int) :
    start ≤ seededInteger start stop seed ∧ seededInteger start stop seed < stop := by
  have small := Random.below_lt (show 0 < (stop - start).toNat by omega) 1000
    (.ofSeed (UInt64.ofNat (seed % Random.wordCount).toNat))
  rw [seededInteger]
  dsimp only [Random.Source.uniform]
  omega

end Reduction

/-! ## The function -/

section Function

variable {first second third : Json} {start stop seed : Int}

/-- Without a seed, the function takes one draw, unless its range is empty. -/
theorem apply_mathRandom (config : Config) (isStart : integerAt 1 first = .ok start)
    (isStop : integerAt 2 second = .ok stop) (source : Random.Source) :
    (apply config "MathRandom" [first, second]).run source =
      if stop ≤ start then (.error (.refused "MathRandom" .emptyRange), source)
      else (.ok (.int (reduceDraw start stop source.next.1)), source.next.2) := by
  rw [run_apply rfl rfl, applyDrawing, isStart, isStop]
  by_cases empty : stop ≤ start
  · simp only [Evaluation.ofExcept, ExceptT.run_bind, ExceptT.run_mk, pure_bind, if_pos empty,
      ExceptT.bind_throw, ExceptT.run_throw]
    rfl
  · simp only [Evaluation.ofExcept, ExceptT.run_bind, ExceptT.run_mk, pure_bind, if_neg empty]
    rfl

/-- With a seed, the function takes no draw, and the seed determines what it comes to. -/
theorem apply_mathRandom_seeded (config : Config) (isStart : integerAt 1 first = .ok start)
    (isStop : integerAt 2 second = .ok stop) (isSeed : integerAt 3 third = .ok seed)
    (source : Random.Source) :
    (apply config "MathRandom" [first, second, third]).run source =
      if stop ≤ start then (.error (.refused "MathRandom" .emptyRange), source)
      else (.ok (.int (seededInteger start stop seed)), source) := by
  rw [run_apply rfl rfl, applyDrawing, isStart, isStop]
  by_cases empty : stop ≤ start
  · simp only [Evaluation.ofExcept, ExceptT.run_bind, ExceptT.run_mk, pure_bind, if_pos empty,
      ExceptT.bind_throw, ExceptT.run_throw]
    rfl
  · simp only [Evaluation.ofExcept, ExceptT.run_bind, ExceptT.run_mk, pure_bind, if_neg empty,
      isSeed]
    rfl

end Function

/-- Every draw selects an integer of the range, and every integer of the range is selected by the
draw of some source, also when the span of the range is no signed 64-bit integer. An empty range is
refused before anything is drawn. -/
theorem apply_mathRandom_covers (config : Config) {start stop : Int} (startFits : Signed start)
    (stopFits : Signed stop) :
    (start < stop →
      (∀ draw : UInt64, ∃ value, start ≤ value ∧ value < stop ∧
        ∀ source : Random.Source, source.next.1 = draw →
          (apply config "MathRandom" [.int start, .int stop]).run source =
            (.ok (.int value), source.next.2)) ∧
      ∀ value, start ≤ value → value < stop → ∃ source : Random.Source,
        (apply config "MathRandom" [.int start, .int stop]).run source =
          (.ok (.int value), source.next.2)) ∧
    (stop ≤ start → ∀ source : Random.Source,
      (apply config "MathRandom" [.int start, .int stop]).run source =
        (.error (.refused "MathRandom" .emptyRange), source)) := by
  have runs := apply_mathRandom config (integerAt_int startFits 1) (integerAt_int stopFits 2)
  refine ⟨fun ordered => ⟨fun draw => ?_, fun value above before => ?_⟩, fun empty source => ?_⟩
  · obtain ⟨above, before⟩ := reduceDraw_mem startFits stopFits ordered draw
    refine ⟨reduceDraw start stop draw, above, before, fun source drawn => ?_⟩
    rw [runs, if_neg (not_le_of_gt ordered), drawn]
  · obtain ⟨draw, selects⟩ := exists_reduceDraw startFits stopFits above before
    obtain ⟨source, drawn⟩ := Random.exists_next draw
    refine ⟨source, ?_⟩
    rw [runs, if_neg (not_le_of_gt ordered), drawn, selects]
  · rw [runs, if_pos empty]

/-- The greatest integer below the greatest one is drawn from the widest range there is. -/
theorem apply_mathRandom_covers_widest :
    Signed Number.minSigned ∧ Signed Number.maxSigned ∧ Number.minSigned < Number.maxSigned ∧
      ∃ source : Random.Source,
        (apply {} "MathRandom" [.int Number.minSigned, .int Number.maxSigned]).run source =
          (.ok (.int 9223372036854775806), source.next.2) :=
  have widest : Signed Number.minSigned ∧ Signed Number.maxSigned := by decide
  ⟨widest.1, widest.2, by decide,
    ((apply_mathRandom_covers {} widest.1 widest.2).1 (by decide)).2 9223372036854775806
      (by decide) (by decide)⟩

end Workflow.Intrinsic
