import ProtocolGate.Proofs.Decimal.Magnitude
import ProtocolGate.Proofs.Decimal.Reader

/-!
The order of numbers and their arithmetic. Sums, products with a fixed positive factor, and
conversions of whole numbers grow with what they are made of, as long as nothing is below zero, and
that goes for results that are too large for a finite number as well.
-/

namespace ProtocolGate.Decimal

open Float.Model (Format UnpackedFloat)
open Float.Model.UnpackedFloat

namespace Measures

variable {left right : UnpackedFloat} {leftMagnitude rightMagnitude : ℚ}

theorem add_finite {mantissa other : ℕ} {exponent otherExponent : ℤ}
    (canonical : Canonical mantissa exponent) (otherCanonical : Canonical other otherExponent) :
    ∃ magnitude, Stored (mantissa * 2 ^ exponent + other * 2 ^ otherExponent) magnitude ∧
      Measures (UnpackedFloat.unpack Format.binary64 (UnpackedFloat.pack Format.binary64
        (UnpackedFloat.add Format.binary64
          (.finite .positive mantissa exponent canonical.positive)
          (.finite .positive other otherExponent otherCanonical.positive)))) magnitude := by
  simp only [UnpackedFloat.add, decreaseExponent, Sign.apply, ← Int.natCast_add, Nat.shiftLeft_eq]
  generalize least : min exponent otherExponent = start
  generalize first : (exponent - start).toNat = count
  generalize second : (otherExponent - start).toNat = otherCount
  have value : ((mantissa * 2 ^ count + other * 2 ^ otherCount : ℕ) : ℚ) * 2 ^ start =
      mantissa * 2 ^ exponent + other * 2 ^ otherExponent := by
    have reach : exponent = start + count := by omega
    have otherReach : otherExponent = start + otherCount := by omega
    rw [reach, otherReach, shifted_place, shifted_place]
    push_cast
    ring
  rw [← value]
  exact measures_normalize (Nat.add_pos_left (Nat.mul_pos canonical.positive (Nat.two_pow_pos _)) _)

theorem add (measures : Measures left leftMagnitude)
    (otherMeasures : Measures right rightMagnitude) :
    ∃ magnitude, Stored (leftMagnitude + rightMagnitude) magnitude ∧
      Measures (UnpackedFloat.unpack Format.binary64 (UnpackedFloat.pack Format.binary64
        (UnpackedFloat.add Format.binary64 left right))) magnitude := by
  have kept {sum : UnpackedFloat} {magnitude : ℚ} (same : Measures sum magnitude) :
      ∃ result, Stored magnitude result ∧ Measures (UnpackedFloat.unpack Format.binary64
        (UnpackedFloat.pack Format.binary64 sum)) result :=
    ⟨magnitude, same.stored, same.packed⟩
  have unbounded {value : ℚ} (large : ceiling ≤ value) :
      ∃ result, Stored value result ∧ Measures (UnpackedFloat.unpack Format.binary64
        (UnpackedFloat.pack Format.binary64 (.infinity .positive))) result :=
    ⟨ceiling, .inr ⟨large, rfl⟩, infinite.packed⟩
  have nonneg := measures.nonneg
  have otherNonneg := otherMeasures.nonneg
  cases measures with
  | zero sign =>
      rw [zero_add]
      cases otherMeasures with
      | zero otherSign => cases sign <;> cases otherSign <;> exact kept (.zero _)
      | finite canonical => exact kept (.finite canonical)
      | infinite => exact kept .infinite
  | finite canonical =>
      cases otherMeasures with
      | zero sign =>
          rw [add_zero]
          exact kept (.finite canonical)
      | finite otherCanonical => exact add_finite canonical otherCanonical
      | infinite => exact unbounded (le_add_of_nonneg_left nonneg)
  | infinite =>
      cases otherMeasures with
      | zero sign => exact unbounded (le_add_of_nonneg_right otherNonneg)
      | finite canonical => exact unbounded (le_add_of_nonneg_right otherNonneg)
      | infinite => exact unbounded (le_add_of_nonneg_right otherNonneg)

section Factor

variable {mantissa : ℕ} {exponent : ℤ} (canonical : Canonical mantissa exponent)

include canonical

theorem mul_finite {other : ℕ} {otherExponent : ℤ}
    (otherCanonical : Canonical other otherExponent) :
    ∃ magnitude, Stored (mantissa * 2 ^ exponent * (other * 2 ^ otherExponent)) magnitude ∧
      Measures (UnpackedFloat.unpack Format.binary64 (UnpackedFloat.pack Format.binary64
        (UnpackedFloat.mul Format.binary64
          (.finite .positive mantissa exponent canonical.positive)
          (.finite .positive other otherExponent otherCanonical.positive)))) magnitude := by
  have value : ((mantissa * other : ℕ) : ℚ) * 2 ^ (exponent + otherExponent) =
      mantissa * 2 ^ exponent * (other * 2 ^ otherExponent) := by
    rw [zpow_add₀ two_ne_zero]
    push_cast
    ring
  -- Unless one of the mantissas is full, both exponents are the least.
  have enough : 52 ≤ (mantissa * other).log2 ∨ exponent + otherExponent ≤ -1074 := by
    have nonzero := (Nat.mul_pos canonical.positive otherCanonical.positive).ne'
    rw [Nat.le_log2 nonzero]
    by_cases normal : -1074 < exponent
    · exact .inl ((canonical.full normal).trans
        (Nat.le_mul_of_pos_right mantissa otherCanonical.positive))
    · by_cases otherNormal : -1074 < otherExponent
      · exact .inl ((otherCanonical.full otherNormal).trans
          (Nat.le_mul_of_pos_left other canonical.positive))
      · exact .inr (by omega)
  rw [← value]
  exact measures_roundWithAccuracy enough

/-- A product with a finite factor is the number that stands for the product of the magnitudes, and
it is infinite if the other factor is. -/
theorem mul (measures : Measures right rightMagnitude) :
    ∃ magnitude, (rightMagnitude < ceiling →
        Stored (mantissa * 2 ^ exponent * rightMagnitude) magnitude) ∧
      (rightMagnitude = ceiling → magnitude = ceiling) ∧
      Measures (UnpackedFloat.unpack Format.binary64 (UnpackedFloat.pack Format.binary64
        (UnpackedFloat.mul Format.binary64
          (.finite .positive mantissa exponent canonical.positive) right))) magnitude := by
  cases measures with
  | zero sign =>
      have none : Measures (.zero (.positive * sign)) 0 := .zero _
      refine ⟨0, fun _ => ?_, fun same => absurd same ceiling_pos.ne, none.packed⟩
      rw [mul_zero]
      exact none.stored
  | finite otherCanonical =>
      obtain ⟨magnitude, stored, product⟩ := mul_finite canonical otherCanonical
      exact ⟨magnitude, fun _ => stored, fun same => absurd same otherCanonical.magnitude_lt.ne,
        product⟩
  | infinite =>
      exact ⟨ceiling, fun less => absurd less (lt_irrefl _), fun _ => rfl, infinite.packed⟩

end Factor

end Measures

section Numbers

variable {number larger other most factor : Float} {magnitude : ℚ}

theorem le_iff_unpack : number ≤ larger ↔ number.toModel.unpack.le larger.toModel.unpack = true :=
  ⟨of_decide_eq_true, decide_eq_true⟩

theorem measures_zero : Measures (0 : Float).toModel.unpack 0 := by
  have read : (0 : Float).toModel.unpack = .zero .positive := by rfl
  rw [read]
  exact .zero .positive

theorem Measures.exists_of_le (measures : Measures number.toModel.unpack magnitude)
    (le : number ≤ larger) :
    ∃ other, Measures larger.toModel.unpack other ∧ magnitude ≤ other := by
  have le := le_iff_unpack.mp le
  obtain ⟨other, otherMeasures⟩ := measures.of_le le
  exact ⟨other, otherMeasures, (measures.le_iff otherMeasures).mp le⟩

theorem exists_measures (nonneg : 0 ≤ number) :
    ∃ magnitude, Measures number.toModel.unpack magnitude := by
  obtain ⟨magnitude, measures, _⟩ := measures_zero.exists_of_le nonneg
  exact ⟨magnitude, measures⟩

theorem Measures.le {otherMagnitude : ℚ} (measures : Measures number.toModel.unpack magnitude)
    (otherMeasures : Measures larger.toModel.unpack otherMagnitude)
    (le : magnitude ≤ otherMagnitude) : number ≤ larger :=
  le_iff_unpack.mpr ((measures.le_iff otherMeasures).mpr le)

theorem trans_of_nonneg (nonneg : 0 ≤ number) (le : number ≤ larger) (leMost : larger ≤ most) :
    number ≤ most := by
  obtain ⟨magnitude, measures⟩ := exists_measures nonneg
  obtain ⟨middle, middleMeasures, first⟩ := measures.exists_of_le le
  obtain ⟨last, lastMeasures, second⟩ := middleMeasures.exists_of_le leMost
  exact measures.le lastMeasures (first.trans second)

theorem self_le_of_nonneg (nonneg : 0 ≤ number) : number ≤ number := by
  obtain ⟨magnitude, measures⟩ := exists_measures nonneg
  exact measures.le measures le_rfl

theorem sum_mono {otherLarger : Float} (nonneg : 0 ≤ number) (le : number ≤ larger)
    (otherNonneg : 0 ≤ other) (otherLe : other ≤ otherLarger) :
    number + other ≤ larger + otherLarger := by
  obtain ⟨left, leftMeasures⟩ := exists_measures nonneg
  obtain ⟨right, rightMeasures⟩ := exists_measures otherNonneg
  obtain ⟨leftMore, leftMoreMeasures, leftLe⟩ := leftMeasures.exists_of_le le
  obtain ⟨rightMore, rightMoreMeasures, rightLe⟩ := rightMeasures.exists_of_le otherLe
  obtain ⟨sum, stored, measures⟩ := leftMeasures.add rightMeasures
  obtain ⟨sumMore, storedMore, measuresMore⟩ := leftMoreMeasures.add rightMoreMeasures
  exact Measures.le measures measuresMore (stored.mono storedMore (add_le_add leftLe rightLe))

theorem le_sum (nonneg : 0 ≤ number) (otherNonneg : 0 ≤ other) : number ≤ number + other := by
  obtain ⟨left, leftMeasures⟩ := exists_measures nonneg
  obtain ⟨right, rightMeasures⟩ := exists_measures otherNonneg
  obtain ⟨sum, stored, measures⟩ := leftMeasures.add rightMeasures
  exact leftMeasures.le measures
    (leftMeasures.stored.mono stored (le_add_of_nonneg_right rightMeasures.nonneg))

theorem sum_nonneg (nonneg : 0 ≤ number) (otherNonneg : 0 ≤ other) : 0 ≤ number + other := by
  obtain ⟨left, leftMeasures⟩ := exists_measures nonneg
  obtain ⟨right, rightMeasures⟩ := exists_measures otherNonneg
  obtain ⟨sum, _, measures⟩ := leftMeasures.add rightMeasures
  exact measures_zero.le measures measures.nonneg

theorem unpack_zero (sign : Sign) :
    (Float.ofModel (.pack (.zero sign))).toModel.unpack = .zero sign :=
  (Measures.zero sign).unpack_pack

theorem lt_iff_unpack : number < larger ↔ number.toModel.unpack.lt larger.toModel.unpack = true :=
  ⟨of_decide_eq_true, decide_eq_true⟩

theorem nonneg_of_finite (finite : number.isFinite = true) (notNegative : ¬ number < 0) :
    0 ≤ number := by
  rcases finite_cases finite with ⟨sign, rfl⟩ | ⟨sign, mantissa, exponent, canonical, read, _⟩
  · exact measures_zero.le ((unpack_zero sign).symm ▸ .zero sign) le_rfl
  · cases sign with
    | positive => exact measures_zero.le (read.symm ▸ .finite canonical) canonical.magnitude_pos.le
    | negative =>
        refine absurd (lt_iff_unpack.mpr ?_) notNegative
        rw [read]
        rfl

theorem exists_parts (positive : 0 < number) (finite : number.isFinite = true) :
    ∃ mantissa exponent, ∃ canonical : Canonical mantissa exponent,
      number.toModel.unpack = .finite .positive mantissa exponent canonical.positive := by
  have positive := lt_iff_unpack.mp positive
  rcases finite_cases finite with ⟨sign, rfl⟩ | ⟨sign, mantissa, exponent, canonical, read, _⟩
  · rw [unpack_zero] at positive
    contradiction
  · cases sign with
    | positive => exact ⟨mantissa, exponent, canonical, read⟩
    | negative =>
        rw [read] at positive
        contradiction

theorem product_mono (positive : 0 < factor) (finite : factor.isFinite = true)
    (nonneg : 0 ≤ number) (le : number ≤ larger) : factor * number ≤ factor * larger := by
  obtain ⟨mantissa, exponent, canonical, read⟩ := exists_parts positive finite
  obtain ⟨magnitude, measures⟩ := exists_measures nonneg
  obtain ⟨more, moreMeasures, magnitudes⟩ := measures.exists_of_le le
  obtain ⟨product, stored, _, productMeasures⟩ := measures.mul canonical
  obtain ⟨productMore, storedMore, unbounded, productMoreMeasures⟩ := moreMeasures.mul canonical
  rw [← read] at productMeasures productMoreMeasures
  refine Measures.le productMeasures productMoreMeasures ?_
  rcases moreMeasures.stored.le_ceiling.lt_or_eq with less | same
  · exact (stored (magnitudes.trans_lt less)).mono (storedMore less)
      (mul_le_mul_of_nonneg_left magnitudes canonical.magnitude_pos.le)
  · rw [unbounded same]
    exact productMeasures.stored.le_ceiling

theorem product_nonneg (positive : 0 < factor) (finite : factor.isFinite = true)
    (nonneg : 0 ≤ number) : 0 ≤ factor * number := by
  obtain ⟨mantissa, exponent, canonical, read⟩ := exists_parts positive finite
  obtain ⟨magnitude, measures⟩ := exists_measures nonneg
  obtain ⟨product, _, _, productMeasures⟩ := measures.mul canonical
  rw [← read] at productMeasures
  exact measures_zero.le productMeasures productMeasures.nonneg

theorem measures_ofScientific {size : ℕ} (positive : 0 < size) :
    ∃ magnitude, Stored size magnitude ∧
      Measures (UnpackedFloat.unpack Format.binary64 (UnpackedFloat.pack Format.binary64
        (UnpackedFloat.ofScientific Format.binary64 size 0))) magnitude := by
  have width : Format.binary64.mantissaBits = 53 := rfl
  have range : (2 : ℤ) ^ Format.binary64.exponentBits = 2048 := rfl
  have read : UnpackedFloat.ofScientific Format.binary64 size 0 =
      roundWithAccuracy Format.binary64 .positive (size * 2 ^ 53) (-53) .exact := by
    unfold UnpackedFloat.ofScientific
    rw [dif_neg positive.ne', if_neg (by omega), if_neg (by omega), if_pos le_rfl]
    simp only [UnpackedFloat.mul, width, Nat.shiftLeft_eq, Int.toNat_zero, pow_zero, mul_one,
      add_zero]
    rfl
  have enough : 52 ≤ (size * 2 ^ 53).log2 ∨ (-53 : ℤ) ≤ -1074 := by
    left
    rw [Nat.le_log2 (Nat.mul_pos positive (Nat.two_pow_pos 53)).ne']
    omega
  have value : ((size * 2 ^ 53 : ℕ) : ℚ) * 2 ^ (-53 : ℤ) = size := by
    rw [Nat.cast_mul, mul_assoc]
    norm_num
  rw [read, ← value]
  exact measures_roundWithAccuracy enough

theorem measures_ofInt (size : ℕ) :
    ∃ magnitude, Stored size magnitude ∧ Measures (ofInt size).toModel.unpack magnitude := by
  have converted : ofInt size = scaledFloat size 0 := by
    rw [ofInt, if_neg (by omega), scaledFloat, if_neg (by omega), Int.natAbs_natCast]
    rfl
  rw [converted]
  rcases Nat.eq_zero_or_pos size with rfl | positive
  · rw [Nat.cast_zero]
    have none : scaledFloat 0 0 = 0 := by decide +kernel
    rw [none]
    exact ⟨0, measures_zero.stored, measures_zero⟩
  by_cases short : size < 2 ^ 53
  · obtain ⟨mantissa, exponent, canonical, _, value, _⟩ := exists_natural positive short
    have rounds : RoundsTo (size * 10 ^ (0 : ℤ)) mantissa exponent := by
      rw [zpow_zero, mul_one, ← value]
      exact roundsTo_self mantissa exponent
    rw [scaledFloat_eq canonical positive rounds, unpack_ofParts canonical, ← value]
    exact ⟨_, (Measures.finite canonical).stored, .finite canonical⟩
  · rw [scaledFloat, if_neg (by omega), Float.ofScientific, dif_neg fun both => short both.1]
    exact measures_ofScientific positive

theorem ofInt_mono {size more : ℕ} (le : size ≤ more) : ofInt size ≤ ofInt more := by
  obtain ⟨magnitude, stored, measures⟩ := measures_ofInt size
  obtain ⟨other, otherStored, otherMeasures⟩ := measures_ofInt more
  exact measures.le otherMeasures (stored.mono otherStored (by exact_mod_cast le))

theorem ofInt_nonneg (size : ℕ) : 0 ≤ ofInt size := by
  obtain ⟨magnitude, _, measures⟩ := measures_ofInt size
  exact measures_zero.le measures measures.nonneg

/-- The least whole number that is no nearer to any finite number than to the ceiling. -/
def wholeLimit : ℕ :=
  2 ^ 1024 - 2 ^ 970

theorem isFinite_ofInt_natCast (size : ℕ) :
    (ofInt size).isFinite = true ↔ size < wholeLimit := by
  -- Conversion is monotone, so the two numbers at the limit decide it.
  have last : (ofInt (wholeLimit - 1 : ℕ)).toModel.unpack.isFinite = true := by decide +kernel
  have first : ¬ (ofInt wholeLimit).toModel.unpack.isFinite = true := by decide +kernel
  obtain ⟨magnitude, stored, measures⟩ := measures_ofInt size
  obtain ⟨most, mostStored, mostMeasures⟩ := measures_ofInt (wholeLimit - 1)
  obtain ⟨least, leastStored, leastMeasures⟩ := measures_ofInt wholeLimit
  rw [mostMeasures.isFinite_iff] at last
  rw [leastMeasures.isFinite_iff] at first
  change (ofInt size).toModel.unpack.isFinite = true ↔ size < wholeLimit
  rw [measures.isFinite_iff]
  constructor
  · intro finite
    by_contra large
    have le : least ≤ magnitude := leastStored.mono stored (by exact_mod_cast not_lt.mp large)
    exact first (le.trans_lt finite)
  · intro small
    have le : magnitude ≤ most :=
      stored.mono mostStored (by exact_mod_cast Nat.le_sub_one_of_lt small)
    exact le.trans_lt last

theorem isFinite_ofInt (value : ℤ) :
    (ofInt value).isFinite = true ↔ value.natAbs < wholeLimit := by
  rw [← isFinite_ofInt_natCast]
  by_cases negative : value < 0
  · have mirrored : ofInt value = -ofInt value.natAbs := by
      rw [ofInt, if_pos negative, ofInt, if_neg (by omega), Int.natAbs_natCast]
    obtain ⟨_, _, measures⟩ := measures_ofInt value.natAbs
    have kept : (-ofInt value.natAbs).isFinite = (ofInt value.natAbs).isFinite :=
      measures.isFinite_neg
    rw [mirrored, kept]
  · rw [Int.natAbs_of_nonneg (not_lt.mp negative)]

theorem isSome_ofInt? (value : ℤ) : (ofInt? value).isSome = decide (value.natAbs < wholeLimit) := by
  rw [ofInt?, Bool.eq_iff_iff, decide_eq_true_iff, ← isFinite_ofInt]
  split
  · rename_i finite
    exact iff_of_true rfl finite
  · rename_i infinite
    exact iff_of_false Bool.false_ne_true infinite

end Numbers

end ProtocolGate.Decimal
