import ProtocolGate.Decimal.Reader
import ProtocolGate.Proofs.Decimal.Bits

/-!
Reading a decimal: whichever way the number is computed, from a table of powers of ten or exactly,
it is the one in whose interval the decimal lies.
-/

namespace ProtocolGate.Decimal

open Float.Model (Format UnpackedFloat)
open Float.Model.UnpackedFloat

theorem roundsTo_self (mantissa : ℕ) (exponent : ℤ) :
    RoundsTo (mantissa * 2 ^ exponent) mantissa exponent := by
  have unit : (0 : ℚ) < 2 ^ exponent := by positivity
  have reach := (reachBelow_bounds mantissa exponent).1
  constructor
  · left
    exact mul_lt_mul_of_pos_right (by linarith) unit
  · left
    exact mul_lt_mul_of_pos_right (by linarith) unit

theorem exists_natural {natural : ℕ} (positive : 0 < natural) (short : natural < 2 ^ 53) :
    ∃ mantissa exponent, ∃ canonical : Canonical mantissa exponent, 2 ^ 52 ≤ mantissa ∧
      (mantissa * 2 ^ exponent : ℚ) = natural ∧
      natural.toUInt64.toFloat = ofParts .positive mantissa exponent canonical.positive := by
  have bits : natural.log2 < 53 := (Nat.log2_lt positive.ne').mpr short
  -- Shifted up to 53 bits, it is in its one form, and rounding leaves it as it is.
  obtain ⟨count, width⟩ : ∃ count, natural.log2 + count = 52 := ⟨52 - natural.log2, by omega⟩
  have least := Nat.mul_le_mul_right (2 ^ count) (Nat.log2_self_le positive.ne')
  have most := Nat.mul_lt_mul_of_pos_right (Nat.lt_log2_self (n := natural)) (Nat.two_pow_pos count)
  rw [← pow_add, width] at least
  rw [← pow_add, Nat.add_right_comm, width] at most
  have canonical : Canonical (natural * 2 ^ count) (-(count : ℤ)) :=
    ⟨by positivity, most, by omega, by omega, fun _ => least⟩
  have value : ((natural * 2 ^ count : ℕ) * 2 ^ (-(count : ℤ)) : ℚ) = natural := by
    rw [zpow_neg, zpow_natCast]
    push_cast
    field_simp
  refine ⟨natural * 2 ^ count, -(count : ℤ), canonical, least, value, ?_⟩
  have same : natural.toUInt64.toNat = natural :=
    UInt64.toNat_ofNat_of_lt' (Nat.lt_trans short (by decide))
  have target : (-max ((natural.log2 : ℤ) + 0 - 52) (-1074)).toNat = count := by omega
  have rounded : UnpackedFloat.ofUInt64 Format.binary64 natural.toUInt64 =
      .finite .positive (natural * 2 ^ count) (-count) canonical.positive := by
    have order : compare (natural : ℤ) 0 = .gt := by
      rw [Int.compare_eq_gt]
      omega
    simp only [UnpackedFloat.ofUInt64, UnpackedFloat.ofNat, UnpackedFloat.ofInt, same,
      UnpackedFloat.normalize, order, UnpackedFloat.round, targetExponent_eq, decreaseExponent,
      Int.toNat_natCast, Nat.shiftLeft_eq, zero_sub, target]
    refine roundWithAccuracy_eq canonical .positive (shows_exact _) (.inl ?_)
      (roundsTo_self _ _)
    exact (Nat.le_log2 canonical.positive.ne').mpr least
  change Float.ofModel (.pack (UnpackedFloat.ofUInt64 Format.binary64 natural.toUInt64)) = _
  rw [rounded]
  rfl

def isPowerOfTen (power : ℕ) : UnpackedFloat → Bool
  | .finite .positive mantissa exponent _ =>
    mantissa * 2 ^ exponent.toNat == 10 ^ power * 2 ^ (-exponent).toNat
  | _ => false

theorem powers_checked : ∀ power : Fin Float.exactlyRepresentablePowersOfTen.size,
    isPowerOfTen power (Float.exactlyRepresentablePowersOfTen[power]).toModel.unpack = true := by
  decide +kernel

theorem exists_power {power : ℕ} (bound : power < Float.exactlyRepresentablePowersOfTen.size) :
    ∃ (mantissa : ℕ) (exponent : ℤ) (positive : 0 < mantissa),
      (Float.exactlyRepresentablePowersOfTen[power]).toModel.unpack =
        .finite .positive mantissa exponent positive ∧
      (mantissa * 2 ^ exponent : ℚ) = 10 ^ power := by
  have checked := powers_checked ⟨power, bound⟩
  simp only [Fin.getElem_fin] at checked
  match unpacked : (Float.exactlyRepresentablePowersOfTen[power]).toModel.unpack, checked with
  | .finite .positive mantissa exponent positive, checked =>
      refine ⟨mantissa, exponent, positive, rfl, ?_⟩
      have equal : (mantissa * 2 ^ exponent.toNat : ℚ) = 10 ^ power * 2 ^ (-exponent).toNat := by
        exact_mod_cast (beq_iff_eq.mp checked)
      rcases le_total 0 exponent with natural | negative
      · have none : (-exponent).toNat = 0 := by omega
        rw [none, pow_zero, mul_one] at equal
        rw [← equal, ← zpow_natCast 2 exponent.toNat, Int.toNat_of_nonneg natural]
      · have none : exponent.toNat = 0 := by omega
        rw [none, pow_zero, mul_one] at equal
        rw [equal, mul_assoc, ← zpow_natCast 2 (-exponent).toNat, ← zpow_add₀ two_ne_zero]
        have cancel : ((-exponent).toNat : ℤ) + exponent = 0 := by omega
        rw [cancel, zpow_zero, mul_one]

section Scaled

variable {digits mantissa : ℕ} {power exponent : ℤ}

theorem RoundsTo.range {value : ℚ} (canonical : Canonical mantissa exponent)
    (rounds : RoundsTo value mantissa exponent) :
    (2 ^ 1075)⁻¹ ≤ value ∧ value < 2 ^ 1024 := by
  obtain ⟨lower, upper⟩ := rounds.le
  have whole : (1 : ℚ) ≤ mantissa := by exact_mod_cast canonical.positive
  have short : (mantissa : ℚ) + 1 ≤ 2 ^ 53 := by exact_mod_cast canonical.short
  have unit : (0 : ℚ) < 2 ^ exponent := by positivity
  have reach := (reachBelow_bounds mantissa exponent).2
  have least : ((2 : ℚ) ^ 1074)⁻¹ ≤ 2 ^ exponent := by
    rw [← zpow_natCast, ← zpow_neg]
    exact zpow_le_zpow_right₀ one_le_two canonical.low
  have most : (2 : ℚ) ^ exponent ≤ 2 ^ 971 := by
    rw [← zpow_natCast]
    exact zpow_le_zpow_right₀ one_le_two canonical.high
  constructor
  · calc ((2 : ℚ) ^ 1075)⁻¹ = 1 / 2 * (2 ^ 1074)⁻¹ := by
          rw [pow_succ 2 1074, mul_inv, mul_comm, one_div]
      _ ≤ 1 / 2 * 2 ^ exponent := mul_le_mul_of_nonneg_left least (by norm_num)
      _ ≤ (mantissa - reachBelow mantissa exponent) * 2 ^ exponent :=
          mul_le_mul_of_nonneg_right (by linarith) unit.le
      _ ≤ value := lower
  · calc value ≤ (mantissa + 1 / 2) * 2 ^ exponent := upper
      _ < 2 ^ 53 * 2 ^ exponent := mul_lt_mul_of_pos_right (by linarith) unit
      _ ≤ 2 ^ 53 * 2 ^ 971 := mul_le_mul_of_nonneg_left most (by positivity)
      _ = 2 ^ 1024 := (pow_add 2 53 971).symm

theorem RoundsTo.power_bounds (canonical : Canonical mantissa exponent) (positive : 0 < digits)
    (rounds : RoundsTo (digits * 10 ^ power) mantissa exponent) :
    power ≤ 2048 ∧ -(2048 + digits.log2 : ℤ) ≤ power := by
  obtain ⟨lower, upper⟩ := rounds.range canonical
  constructor
  · by_contra large
    have one : (1 : ℚ) ≤ digits := by exact_mod_cast positive
    have least : (2 : ℚ) ^ 1024 ≤ digits * 10 ^ power := by
      calc (2 : ℚ) ^ 1024 ≤ 10 ^ 1024 := pow_le_pow_left₀ two_pos.le (by norm_num) 1024
        _ = 10 ^ (1024 : ℤ) := (zpow_natCast 10 1024).symm
        _ ≤ 10 ^ power := zpow_le_zpow_right₀ (by norm_num) (by omega)
        _ ≤ digits * 10 ^ power := le_mul_of_one_le_left (by positivity) one
    exact absurd upper (not_lt.mpr least)
  · by_contra small
    have bits : (digits : ℚ) < 2 ^ (digits.log2 + 1) := by exact_mod_cast Nat.lt_log2_self
    have ten : (10 : ℚ) ^ power ≤ (2 ^ (digits.log2 + 1) * 2 ^ 1075)⁻¹ := by
      calc (10 : ℚ) ^ power ≤ 10 ^ (-(digits.log2 + 1 + 1075 : ℕ) : ℤ) :=
            zpow_le_zpow_right₀ (by norm_num) (by push_cast; omega)
        _ = (10 ^ (digits.log2 + 1 + 1075))⁻¹ := by rw [zpow_neg, zpow_natCast]
        _ ≤ (2 ^ (digits.log2 + 1 + 1075))⁻¹ :=
            inv_anti₀ (by positivity) (pow_le_pow_left₀ two_pos.le (by norm_num) _)
        _ = (2 ^ (digits.log2 + 1) * 2 ^ 1075)⁻¹ := by rw [pow_add]
    have most : (digits * 10 ^ power : ℚ) < (2 ^ 1075)⁻¹ := by
      calc (digits * 10 ^ power : ℚ) < 2 ^ (digits.log2 + 1) * 10 ^ power :=
            mul_lt_mul_of_pos_right bits (by positivity)
        _ ≤ 2 ^ (digits.log2 + 1) * (2 ^ (digits.log2 + 1) * 2 ^ 1075)⁻¹ :=
            mul_le_mul_of_nonneg_left ten (by positivity)
        _ = (2 ^ 1075)⁻¹ := by rw [mul_inv, mul_inv_cancel_left₀ (by positivity)]
    exact absurd most (not_lt.mpr lower)

theorem ofScientific_eq (canonical : Canonical mantissa exponent) (positive : 0 < digits)
    (rounds : RoundsTo (digits * 10 ^ power) mantissa exponent) :
    UnpackedFloat.ofScientific Format.binary64 digits power =
      .finite .positive mantissa exponent canonical.positive := by
  obtain ⟨high, low⟩ := rounds.power_bounds canonical positive
  have width : Format.binary64.mantissaBits = 53 := rfl
  have range : (2 : ℤ) ^ Format.binary64.exponentBits = 2048 := rfl
  unfold UnpackedFloat.ofScientific
  rw [dif_neg positive.ne', if_neg (by omega), if_neg (by omega)]
  by_cases natural : 0 ≤ power
  · rw [if_pos natural]
    refine mul_eq canonical _ _ ?_ ?_
    · rw [width, Nat.shiftLeft_eq]
      exact Nat.le_trans (Nat.pow_le_pow_right two_pos (by decide))
        (Nat.le_mul_of_pos_left _ positive)
    · convert rounds using 1
      have power : (10 : ℚ) ^ power = 10 ^ power.toNat := by
        rw [← zpow_natCast, Int.toNat_of_nonneg natural]
      rw [width, Nat.shiftLeft_eq, power, zpow_neg, zpow_natCast, zpow_zero, mul_one,
        Nat.cast_mul, Nat.cast_pow, Nat.cast_pow, Nat.cast_ofNat, Nat.cast_ofNat,
        mul_inv_cancel_right₀ (by positivity)]
  · rw [if_neg natural]
    refine div_eq canonical _ _ ?_
    convert rounds using 1
    have power : (10 : ℚ) ^ power = (10 ^ (-power).toNat)⁻¹ := by
      rw [← zpow_natCast, Int.toNat_of_nonneg (by omega), zpow_neg, inv_inv]
    rw [power, zpow_zero, mul_one, mul_one, div_eq_mul_inv]
    push_cast
    rfl

section Table

variable {count : ℕ} (canonical : Canonical mantissa exponent) (positive : 0 < digits)
  (short : digits < 2 ^ 53) (bound : count < Float.exactlyRepresentablePowersOfTen.size)

include canonical positive short

theorem natural_div_power (rounds : RoundsTo (digits * 10 ^ (-count : ℤ)) mantissa exponent) :
    digits.toUInt64.toFloat / Float.exactlyRepresentablePowersOfTen[count] =
      ofParts .positive mantissa exponent canonical.positive := by
  obtain ⟨left, leftExponent, leftCanonical, _, leftValue, read⟩ := exists_natural positive short
  obtain ⟨right, rightExponent, rightPositive, table, rightValue⟩ := exists_power bound
  have quotient := div_eq canonical leftCanonical.positive rightPositive (by
    rwa [leftValue, rightValue, div_eq_mul_inv, ← zpow_natCast, ← zpow_neg])
  rw [read]
  change Float.ofModel (.pack (UnpackedFloat.div Format.binary64
    (ofParts .positive left leftExponent leftCanonical.positive).toModel.unpack
    (Float.exactlyRepresentablePowersOfTen[count]).toModel.unpack)) = _
  rw [unpack_ofParts leftCanonical, table, quotient]
  rfl

theorem natural_mul_power (rounds : RoundsTo (digits * 10 ^ (count : ℤ)) mantissa exponent) :
    digits.toUInt64.toFloat * Float.exactlyRepresentablePowersOfTen[count] =
      ofParts .positive mantissa exponent canonical.positive := by
  obtain ⟨left, leftExponent, leftCanonical, full, leftValue, read⟩ :=
    exists_natural positive short
  obtain ⟨right, rightExponent, rightPositive, table, rightValue⟩ := exists_power bound
  have product := mul_eq canonical leftCanonical.positive rightPositive full (by
    rwa [leftValue, rightValue, ← zpow_natCast])
  rw [read]
  change Float.ofModel (.pack (UnpackedFloat.mul Format.binary64
    (ofParts .positive left leftExponent leftCanonical.positive).toModel.unpack
    (Float.exactlyRepresentablePowersOfTen[count]).toModel.unpack)) = _
  rw [unpack_ofParts leftCanonical, table, product]
  rfl

end Table

/-- A decimal in the interval of a finite number is read as that number. -/
theorem scaledFloat_eq (canonical : Canonical mantissa exponent) (positive : 0 < digits)
    (rounds : RoundsTo (digits * 10 ^ power) mantissa exponent) :
    scaledFloat digits power = ofParts .positive mantissa exponent canonical.positive := by
  have exact := ofScientific_eq canonical positive rounds
  by_cases negative : power < 0
  · obtain ⟨count, rfl⟩ : ∃ count : ℕ, power = -(count : ℤ) := ⟨power.natAbs, by omega⟩
    rw [scaledFloat, if_pos negative, Int.natAbs_neg, Int.natAbs_natCast, Float.ofScientific]
    split
    · rename_i short
      exact natural_div_power canonical positive short.1 (Nat.lt_succ_of_le short.2) rounds
    · change Float.ofModel (.pack (UnpackedFloat.ofScientific Format.binary64 digits
        (Int.negOfNat count))) = _
      rw [Int.negOfNat_eq, Int.ofNat_eq_natCast, exact]
      rfl
  · obtain ⟨count, rfl⟩ : ∃ count : ℕ, power = count := ⟨power.toNat, by omega⟩
    rw [scaledFloat, if_neg negative, Int.toNat_natCast, Float.ofScientific]
    split
    · rename_i short
      exact natural_mul_power canonical positive short.1 (Nat.lt_succ_of_le short.2) rounds
    · change Float.ofModel (.pack (UnpackedFloat.ofScientific Format.binary64 digits count)) = _
      rw [exact]
      rfl

end Scaled

end ProtocolGate.Decimal
