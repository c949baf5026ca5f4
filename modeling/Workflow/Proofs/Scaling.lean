import Workflow.Proofs.Normals
import Workflow.Json.Reader

/-!
# Scaling by powers of ten

A document scales the digits of a number by one multiplication or division. As long as the digits
and the power of ten are doubles themselves, and that is up to 53 bits and the 22nd power, the one
rounding gives the nearest double, which is what the reader of decimal texts gives, and it is
finite.
-/

namespace Workflow.Number

open Decimal (scaled)

theorem length_digits_le {value places : Nat} (small : value < 10 ^ places) (some : 0 < places) :
    (Decimal.digits value).length ≤ places := by
  induction places generalizing value with
  | zero => contradiction
  | succ places ih =>
    by_cases single : value < 10
    · rw [Decimal.digits_of_lt single]
      simp
    · have fewer : value / 10 < 10 ^ places := by
        rw [Nat.pow_succ] at small
        omega
      have more : 0 < places := by
        rcases Nat.eq_zero_or_pos places with rfl | more
        · omega
        · exact more
      have := ih fewer more
      rw [Decimal.digits_of_not_lt single]
      simp only [List.length_append, List.length_singleton]
      omega

open Float.Model in
/-- The powers of ten up to the 22nd are doubles not below one. -/
theorem powerOfTen_spec {power : Nat} (listed : power ≤ 22) :
    Float.exactlyRepresentablePowersOfTen[power]? = some (powerOfTen power) ∧
      Double.Short 78 (powerOfTen power).toModel.unpack ∧
      ∃ mantissa positive exponent, (powerOfTen power).toModel.unpack =
        .finite .positive mantissa exponent positive ∧ -52 ≤ exponent := by
  have isListed : ∀ power : Fin 23,
      Float.exactlyRepresentablePowersOfTen[power.val]? = some (powerOfTen power.val) := by
    decide +kernel
  have isShort : ∀ power : Fin 23,
      (match (powerOfTen power.val).toModel.unpack with
        | .finite .positive mantissa exponent _ =>
          decide (mantissa < 2 ^ 53 ∧ exponent ≤ 78 ∧ -52 ≤ exponent)
        | _ => false) = true := by decide +kernel
  have shape := isShort ⟨power, by omega⟩
  refine ⟨isListed ⟨power, by omega⟩, ?_⟩
  generalize (powerOfTen power).toModel.unpack = value at shape
  split at shape
  next mantissa exponent positive =>
    obtain ⟨fits, small, large⟩ := of_decide_eq_true shape
    exact ⟨.finite _ _ fits small, mantissa, positive, exponent, rfl, large⟩
  next => contradiction

section Exact

variable {significand power : Nat} (small : significand < 2 ^ 53) (listed : power ≤ 22)

include small listed

theorem short_mul_powerOfTen :
    Double.Short 210 (Float.ofNat significand * powerOfTen power).toModel.unpack := by
  have left : Double.Short 78 (Float.ofNat significand).toModel.unpack :=
    Double.short_ofNat (by omega)
  obtain ⟨-, right, -⟩ := powerOfTen_spec listed
  exact Double.short_pack (Double.modest_mul left right (by decide)) (by decide) (by decide)

theorem short_div_powerOfTen :
    Double.Short 210 (Float.ofNat significand / powerOfTen power).toModel.unpack := by
  have left : Double.Short 78 (Float.ofNat significand).toModel.unpack :=
    Double.short_ofNat (by omega)
  obtain ⟨-, -, mantissa, positive, exponent, shape, large⟩ := powerOfTen_spec listed
  have quotient : Double.Modest 210 (Float.Model.UnpackedFloat.div Float.Model.Format.binary64
      (Float.ofNat significand).toModel.unpack (powerOfTen power).toModel.unpack) := by
    rw [shape]
    exact Double.modest_div left positive (by omega) (by decide)
  exact Double.short_pack quotient (by decide) (by decide)

theorem ofScientific_eq_mul :
    Float.ofScientific significand false power = Float.ofNat significand * powerOfTen power := by
  obtain ⟨inside, isPower⟩ := Array.getElem?_eq_some_iff.mp (powerOfTen_spec listed).1
  rw [Float.ofScientific, dif_pos ⟨small, listed⟩, Double.ofNat_eq_toFloat_toUInt64 small]
  simp only [Bool.false_eq_true, if_false, isPower]

theorem ofScientific_eq_div :
    Float.ofScientific significand true power = Float.ofNat significand / powerOfTen power := by
  obtain ⟨inside, isPower⟩ := Array.getElem?_eq_some_iff.mp (powerOfTen_spec listed).1
  rw [Float.ofScientific, dif_pos ⟨small, listed⟩, Double.ofNat_eq_toFloat_toUInt64 small]
  simp only [if_true, isPower]

end Exact

theorem scaled_eq {significand : Nat} {exponent : Int} (small : significand < 2 ^ 53)
    (near : exponent.natAbs ≤ 22) :
    scaled significand exponent =
      if exponent < 0 then Float.ofNat significand / powerOfTen exponent.natAbs
      else Float.ofNat significand * powerOfTen exponent.natAbs := by
  by_cases zero : significand = 0
  · have nothing : ∀ power : Fin 23, Float.ofNat 0 / powerOfTen power.val = 0.0 ∧
        Float.ofNat 0 * powerOfTen power.val = 0.0 := by decide +kernel
    obtain ⟨quotient, product⟩ := nothing ⟨exponent.natAbs, by omega⟩
    rw [scaled, if_pos zero, zero, quotient, product, ite_self]
  · have few := length_digits_le (show significand < 10 ^ 16 by omega) (by decide)
    rw [scaled, if_neg zero, if_neg (by omega), if_neg (by omega),
      ofScientific_eq_mul small near, ofScientific_eq_div small near]

/-- Digits and a power of ten that are doubles themselves are scaled to the nearest double, by one
multiplication or division. -/
theorem scale?_eq_scaled {significand : Nat} {exponent : Int} (small : significand < 2 ^ 53)
    (near : exponent.natAbs ≤ 22) :
    scale? significand exponent = some (scaled significand exponent) ∧
      Double.Short 210 (scaled significand exponent).toModel.unpack := by
  rw [scaled_eq small near, scale?]
  split
  next below =>
    refine ⟨?_, short_div_powerOfTen small near⟩
    rw [scaleDown, if_pos (by omega)]
  next above =>
    have short := short_mul_powerOfTen small near
    refine ⟨?_, short⟩
    rw [if_pos (by omega)]
    exact if_pos short.isFinite

end Workflow.Number
