import ProtocolGate.Proofs.Decimal.Bits

/-!
Magnitudes. Rounding never reverses an order: of two values the larger one is not rounded to a
smaller number. A number that is not below zero has a magnitude, by which it is compared, and a
rounded mantissa has the magnitude that stands for its value, even if that is too large for a finite
number.
-/

namespace ProtocolGate.Decimal

open Float.Model (Format UnpackedFloat totalExponent)
open Float.Model.UnpackedFloat

theorem Around.mono {natural other : ℕ} {value larger : ℚ} (around : Around natural value)
    (otherAround : Around other larger) (le : value ≤ larger) : natural ≤ other := by
  refine not_lt.mp fun less => ?_
  have step : (other : ℚ) + 1 ≤ natural := by exact_mod_cast less
  -- Between two neighbours only a midpoint is left, and of these two just one is even.
  rcases around.1 with above | ⟨middle, even⟩
  · rcases otherAround.2 with under | ⟨same, _⟩ <;> linarith
  · rcases otherAround.2 with under | ⟨same, otherEven⟩
    · linarith
    · have next : (natural : ℚ) = other + 1 := by linarith
      have next : natural = other + 1 := by exact_mod_cast next
      omega

theorem around_self (natural : ℕ) : Around natural natural :=
  ⟨.inl (by linarith), .inl (by linarith)⟩

theorem Shows.around {extended : ExtendedMantissa} {value : ℚ} (shows : Shows extended value) :
    Around extended.roundedMantissa value := by
  obtain ⟨mantissa, roundBit, stickyBit⟩ := extended
  cases roundBit <;> cases stickyBit <;>
    simp only [Shows, ExtendedMantissa.roundedMantissa, ExtendedMantissa.accuracy,
      Accuracy.roundToNearestEven] at shows ⊢
  · exact ⟨.inl (by linarith), .inl (by linarith)⟩
  · exact ⟨.inl (by linarith), .inl (by linarith)⟩
  · rcases Nat.mod_two_eq_zero_or_one mantissa with even | odd
    · rw [even]
      exact ⟨.inl (by push_cast; linarith), .inr ⟨by push_cast; linarith, even⟩⟩
    · rw [odd]
      exact ⟨.inr ⟨by push_cast; linarith, by omega⟩, .inl (by push_cast; linarith)⟩
  · exact ⟨.inl (by push_cast; linarith), .inl (by push_cast; linarith)⟩

def Rounded (value result : ℚ) : Prop :=
  ∃ (place : ℤ) (natural : ℕ), CutAt value place ∧ Around natural (value / 2 ^ place) ∧
    result = natural * 2 ^ place

theorem binade_le {place larger : ℤ} (less : place < larger) :
    (2 : ℚ) ^ 53 * 2 ^ place ≤ 2 ^ 52 * 2 ^ larger := by
  calc (2 : ℚ) ^ 53 * 2 ^ place = 2 ^ 52 * 2 ^ (place + 1) := by
        rw [zpow_add_one₀ two_ne_zero]
        ring
    _ ≤ 2 ^ 52 * 2 ^ larger :=
        mul_le_mul_of_nonneg_left (zpow_le_zpow_right₀ one_le_two less) (by positivity)

theorem CutAt.le_natural {value : ℚ} {place : ℤ} {natural : ℕ} (cut : CutAt value place)
    (around : Around natural (value / 2 ^ place)) (normal : -1074 < place) :
    2 ^ 52 ≤ natural := by
  have unit : (0 : ℚ) < 2 ^ place := by positivity
  refine (around_self (2 ^ 52)).mono around ?_
  rw [le_div_iff₀ unit]
  exact_mod_cast cut.leading normal

theorem CutAt.natural_le {value : ℚ} {place : ℤ} {natural : ℕ} (cut : CutAt value place)
    (around : Around natural (value / 2 ^ place)) : natural ≤ 2 ^ 53 := by
  have unit : (0 : ℚ) < 2 ^ place := by positivity
  refine around.mono (around_self (2 ^ 53)) ?_
  rw [div_le_iff₀ unit]
  exact_mod_cast cut.fits.le

theorem Rounded.mono {value larger result other : ℚ} (rounded : Rounded value result)
    (otherRounded : Rounded larger other) (le : value ≤ larger) : result ≤ other := by
  obtain ⟨place, natural, cut, around, rfl⟩ := rounded
  obtain ⟨otherPlace, otherNatural, otherCut, otherAround, rfl⟩ := otherRounded
  rcases lt_trichotomy place otherPlace with less | rfl | more
  -- A power of two stands between values that are cut at different places.
  · have low : (natural : ℚ) ≤ 2 ^ 53 := by exact_mod_cast cut.natural_le around
    have high : (2 : ℚ) ^ 52 ≤ otherNatural := by
      have least := cut.least
      exact_mod_cast otherCut.le_natural otherAround (by omega)
    calc (natural : ℚ) * 2 ^ place ≤ 2 ^ 53 * 2 ^ place :=
          mul_le_mul_of_nonneg_right low (by positivity)
      _ ≤ 2 ^ 52 * 2 ^ otherPlace := binade_le less
      _ ≤ otherNatural * 2 ^ otherPlace := mul_le_mul_of_nonneg_right high (by positivity)
  · have unit : (0 : ℚ) < 2 ^ place := by positivity
    have naturals : (natural : ℚ) ≤ otherNatural := by
      exact_mod_cast around.mono otherAround (div_le_div_of_nonneg_right le unit.le)
    exact mul_le_mul_of_nonneg_right naturals unit.le
  · have least := otherCut.least
    have leading := cut.leading (by omega)
    have fits := otherCut.fits
    have step := binade_le more
    linarith

theorem rounded_exact {natural : ℕ} {place : ℤ} (least : -1074 ≤ place)
    (short : natural < 2 ^ 53) (full : -1074 < place → 2 ^ 52 ≤ natural) :
    Rounded (natural * 2 ^ place) (natural * 2 ^ place) := by
  have unit : (0 : ℚ) < 2 ^ place := by positivity
  refine ⟨place, natural, ⟨least, ?_, fun normal => ?_⟩, ?_, rfl⟩
  · refine mul_lt_mul_of_pos_right ?_ unit
    exact_mod_cast short
  · refine mul_le_mul_of_nonneg_right ?_ unit.le
    exact_mod_cast full normal
  · rw [mul_div_cancel_right₀ _ unit.ne']
    exact around_self natural

@[irreducible]
def ceiling : ℚ :=
  2 ^ 52 * 2 ^ (972 : ℤ)

theorem ceiling_eq : ceiling = 2 ^ 52 * 2 ^ (972 : ℤ) := by
  rw [ceiling]

theorem ceiling_pos : 0 < ceiling := by
  rw [ceiling_eq]
  positivity

theorem rounded_ceiling : Rounded ceiling ceiling := by
  have exact : Rounded ((2 ^ 52 : ℕ) * 2 ^ (972 : ℤ)) ((2 ^ 52 : ℕ) * 2 ^ (972 : ℤ)) :=
    rounded_exact (by decide) (by decide) fun _ => le_rfl
  rw [ceiling_eq]
  simpa only [Nat.cast_pow, Nat.cast_ofNat] using exact

/-- A value and the magnitude of the number that stands for it; everything from the ceiling on has
the same number. -/
def Stored (value magnitude : ℚ) : Prop :=
  (∃ result, Rounded value result ∧ magnitude = min result ceiling) ∨
    ceiling ≤ value ∧ magnitude = ceiling

theorem Stored.le_ceiling {value magnitude : ℚ} (stored : Stored value magnitude) :
    magnitude ≤ ceiling := by
  rcases stored with ⟨result, _, rfl⟩ | ⟨_, rfl⟩
  · exact min_le_right result ceiling
  · exact le_rfl

theorem Stored.mono {value larger magnitude other : ℚ} (stored : Stored value magnitude)
    (otherStored : Stored larger other) (le : value ≤ larger) : magnitude ≤ other := by
  have most := stored.le_ceiling
  rcases otherStored with ⟨otherResult, otherRounded, rfl⟩ | ⟨_, rfl⟩
  · refine le_min ?_ most
    rcases stored with ⟨result, rounded, rfl⟩ | ⟨large, rfl⟩
    · exact (min_le_left result ceiling).trans (rounded.mono otherRounded le)
    · exact rounded_ceiling.mono otherRounded (large.trans le)
  · exact most

/-- A number as it is read from its bits, not below zero, with its magnitude. The infinite number
counts as the ceiling. -/
inductive Measures : UnpackedFloat → ℚ → Prop
  | zero (sign : Sign) : Measures (.zero sign) 0
  | finite {mantissa : ℕ} {exponent : ℤ} (canonical : Canonical mantissa exponent) :
      Measures (.finite .positive mantissa exponent canonical.positive) (mantissa * 2 ^ exponent)
  | infinite : Measures (.infinity .positive) ceiling

section Finite

variable {mantissa : ℕ} {exponent : ℤ}

theorem Canonical.magnitude_pos (canonical : Canonical mantissa exponent) :
    (0 : ℚ) < mantissa * 2 ^ exponent := by
  have positive : (0 : ℚ) < mantissa := by exact_mod_cast canonical.positive
  positivity

theorem Canonical.magnitude_lt (canonical : Canonical mantissa exponent) :
    mantissa * 2 ^ exponent < ceiling := by
  have unit : (0 : ℚ) < 2 ^ exponent := by positivity
  have short : (mantissa : ℚ) < 2 ^ 53 := by exact_mod_cast canonical.short
  rw [ceiling_eq]
  calc (mantissa : ℚ) * 2 ^ exponent < 2 ^ 53 * 2 ^ exponent := mul_lt_mul_of_pos_right short unit
    _ ≤ 2 ^ 52 * 2 ^ (972 : ℤ) := binade_le (Int.lt_add_one_of_le canonical.high)

theorem Canonical.rounded (canonical : Canonical mantissa exponent) :
    Rounded (mantissa * 2 ^ exponent) (mantissa * 2 ^ exponent) :=
  rounded_exact canonical.low canonical.short canonical.full

theorem Canonical.lt_of_exponent {other : ℕ} {otherExponent : ℤ}
    (canonical : Canonical mantissa exponent) (otherCanonical : Canonical other otherExponent)
    (less : exponent < otherExponent) :
    (mantissa : ℚ) * 2 ^ exponent < other * 2 ^ otherExponent := by
  have unit : (0 : ℚ) < 2 ^ exponent := by positivity
  have short : (mantissa : ℚ) < 2 ^ 53 := by exact_mod_cast canonical.short
  have full : (2 : ℚ) ^ 52 ≤ other := by
    have low := canonical.low
    exact_mod_cast otherCanonical.full (by omega)
  calc (mantissa : ℚ) * 2 ^ exponent < 2 ^ 53 * 2 ^ exponent := mul_lt_mul_of_pos_right short unit
    _ ≤ 2 ^ 52 * 2 ^ otherExponent := binade_le less
    _ ≤ other * 2 ^ otherExponent := mul_le_mul_of_nonneg_right full (by positivity)

theorem Canonical.isLE_iff {other : ℕ} {otherExponent : ℤ}
    (canonical : Canonical mantissa exponent) (otherCanonical : Canonical other otherExponent) :
    ((compare exponent otherExponent).then (compare mantissa other)).isLE = true ↔
      (mantissa : ℚ) * 2 ^ exponent ≤ other * 2 ^ otherExponent := by
  rcases lt_trichotomy exponent otherExponent with less | rfl | more
  · have ordered := Int.compare_eq_lt.mpr less
    exact iff_of_true (by rw [ordered]; rfl) (canonical.lt_of_exponent otherCanonical less).le
  · have unit : (0 : ℚ) < 2 ^ exponent := by positivity
    rw [Int.compare_eq_eq.mpr rfl, Ordering.eq_then, Nat.isLE_compare, mul_le_mul_iff_left₀ unit,
      Nat.cast_le]
  · have ordered := Int.compare_eq_gt.mpr more
    refine iff_of_false ?_ (otherCanonical.lt_of_exponent canonical more).not_ge
    rw [ordered]
    exact Bool.false_ne_true

end Finite

namespace Measures

variable {left right : UnpackedFloat} {leftMagnitude rightMagnitude : ℚ}

theorem nonneg (measures : Measures left leftMagnitude) : 0 ≤ leftMagnitude := by
  cases measures with
  | zero sign => exact le_rfl
  | finite canonical => exact canonical.magnitude_pos.le
  | infinite => exact ceiling_pos.le

theorem stored (measures : Measures left leftMagnitude) : Stored leftMagnitude leftMagnitude := by
  cases measures with
  | zero sign =>
      have none : Rounded ((0 : ℕ) * 2 ^ (-1074 : ℤ)) ((0 : ℕ) * 2 ^ (-1074 : ℤ)) :=
        rounded_exact (by decide) (by decide) fun normal => by contradiction
      rw [Nat.cast_zero, zero_mul] at none
      exact .inl ⟨0, none, (min_eq_left ceiling_pos.le).symm⟩
  | finite canonical =>
      exact .inl ⟨_, canonical.rounded, (min_eq_left canonical.magnitude_lt.le).symm⟩
  | infinite => exact .inr ⟨le_rfl, rfl⟩

theorem unpack_pack (measures : Measures left leftMagnitude) :
    UnpackedFloat.unpack Format.binary64 (UnpackedFloat.pack Format.binary64 left) = left := by
  cases measures with
  | zero sign => cases sign <;> rfl
  | finite canonical => exact canonical.unpack_pack .positive
  | infinite => rfl

theorem packed (measures : Measures left leftMagnitude) :
    Measures (UnpackedFloat.unpack Format.binary64 (UnpackedFloat.pack Format.binary64 left))
      leftMagnitude := by
  rwa [measures.unpack_pack]

theorem le_iff (measures : Measures left leftMagnitude)
    (otherMeasures : Measures right rightMagnitude) :
    left.le right = true ↔ leftMagnitude ≤ rightMagnitude := by
  have nonneg := otherMeasures.nonneg
  have below : leftMagnitude ≤ ceiling := measures.stored.le_ceiling
  cases measures with
  | zero sign => cases otherMeasures <;> exact iff_of_true rfl nonneg
  | finite canonical =>
      cases otherMeasures with
      | zero sign => exact iff_of_false Bool.false_ne_true canonical.magnitude_pos.not_ge
      | finite otherCanonical => exact canonical.isLE_iff otherCanonical
      | infinite => exact iff_of_true rfl below
  | infinite =>
      cases otherMeasures with
      | zero sign => exact iff_of_false Bool.false_ne_true ceiling_pos.not_ge
      | finite canonical => exact iff_of_false Bool.false_ne_true canonical.magnitude_lt.not_ge
      | infinite => exact iff_of_true rfl le_rfl

theorem isFinite_iff (measures : Measures left leftMagnitude) :
    left.isFinite = true ↔ leftMagnitude < ceiling := by
  cases measures with
  | zero sign => exact iff_of_true rfl ceiling_pos
  | finite canonical => exact iff_of_true rfl canonical.magnitude_lt
  | infinite => exact iff_of_false Bool.false_ne_true (lt_irrefl ceiling)

theorem isFinite_neg (measures : Measures left leftMagnitude) :
    (UnpackedFloat.unpack Format.binary64
      (UnpackedFloat.pack Format.binary64 left.neg)).isFinite = left.isFinite := by
  cases measures with
  | zero sign => cases sign <;> rfl
  | finite canonical =>
      have kept := congrArg UnpackedFloat.isFinite (canonical.unpack_pack .negative)
      exact kept
  | infinite => rfl

theorem of_le {bits : BitVec 64} (measures : Measures left leftMagnitude)
    (le : left.le (UnpackedFloat.unpack Format.binary64 bits) = true) :
    ∃ magnitude, Measures (UnpackedFloat.unpack Format.binary64 bits) magnitude := by
  match read : UnpackedFloat.unpack Format.binary64 bits, le with
  | .zero sign, _ => exact ⟨0, .zero sign⟩
  | .finite .positive mantissa exponent positive, _ =>
      exact ⟨_, .finite (canonical_of_unpack read)⟩
  | .infinity .positive, _ => exact ⟨ceiling, .infinite⟩
  | .finite .negative mantissa exponent positive, le => cases measures <;> contradiction
  | .infinity .negative, le => cases measures <;> contradiction
  | .notANumber, le => cases measures <;> contradiction

end Measures

theorem stored_pack {mantissa : ℕ} {exponent : ℤ} (positive : 0 < mantissa)
    (short : mantissa < 2 ^ 53) (low : -1074 ≤ exponent)
    (full : -1074 < exponent → 2 ^ 52 ≤ mantissa) :
    Measures (UnpackedFloat.unpack Format.binary64
      (UnpackedFloat.pack Format.binary64 (.finite .positive mantissa exponent positive)))
      (min (mantissa * 2 ^ exponent) ceiling) := by
  by_cases high : exponent ≤ 971
  · have canonical : Canonical mantissa exponent := ⟨positive, short, low, high, full⟩
    rw [canonical.unpack_pack, min_eq_left canonical.magnitude_lt.le]
    exact .finite canonical
  · have large : ceiling ≤ mantissa * 2 ^ exponent := by
      rw [ceiling_eq]
      have many : (2 : ℚ) ^ 52 ≤ mantissa := by exact_mod_cast full (by omega)
      have unit : (2 : ℚ) ^ (972 : ℤ) ≤ 2 ^ exponent :=
        zpow_le_zpow_right₀ one_le_two (by omega)
      exact mul_le_mul many unit (by positivity) (by positivity)
    have packed : UnpackedFloat.pack Format.binary64
        (.finite .positive mantissa exponent positive) =
          UnpackedFloat.pack Format.binary64 (.infinity .positive) := by
      have bias : (Format.binary64.exponentBias : ℤ) = 1023 := rfl
      have width : Format.binary64.mantissaBitsWithoutImplicit = 52 := rfl
      have range : 2 ^ Format.binary64.exponentBits = 2048 := rfl
      unfold UnpackedFloat.pack
      dsimp only
      rw [if_pos (by omega)]
    rw [packed, min_eq_right large]
    exact Measures.infinite.packed

theorem measures_roundWithAccuracy {given : ℕ} {start : ℤ}
    (enough : 52 ≤ given.log2 ∨ start ≤ -1074) :
    ∃ magnitude, Stored (given * 2 ^ start) magnitude ∧
      Measures (UnpackedFloat.unpack Format.binary64 (UnpackedFloat.pack Format.binary64
        (roundWithAccuracy Format.binary64 .positive given start .exact))) magnitude := by
  obtain ⟨count, reach⟩ := exists_count enough
  have first := shiftToTargetExponent_eq .exact count reach
  have cut := (shows_exact given).cutAt enough reach
  have around := ((shows_exact given).shiftRight count).around
  rw [← shifted_value given start count] at around
  generalize (ExtendedMantissa.ofMantissaAndAccuracy given .exact >>> count) = extended
    at first around
  generalize rounded : extended.roundedMantissa = natural at around
  generalize start + count = place at first cut around
  refine ⟨_, .inl ⟨_, ⟨place, natural, cut, around, rfl⟩, rfl⟩, ?_⟩
  have low := cut.least
  have full := cut.le_natural around
  rcases Nat.eq_zero_or_pos natural with rfl | positive
  · have least : max (((0 : ℕ).log2 : ℤ) + place - 52) (-1074) = place := by
      rw [Nat.log2_zero]
      omega
    have second := shiftToTargetExponent_self least
    have none : roundWithAccuracy Format.binary64 .positive given start .exact =
        .zero .positive := by
      simp only [roundWithAccuracy, first, rounded, second]
      rfl
    rw [none, Nat.cast_zero, zero_mul, min_eq_left ceiling_pos.le]
    exact Measures.packed (.zero .positive)
  -- The second shift moves nothing, unless rounding has carried into a 54th bit.
  rcases (cut.natural_le around).lt_or_eq with short | rfl
  · have bits : natural.log2 < 53 := (Nat.log2_lt positive.ne').mpr short
    have same : max ((natural.log2 : ℤ) + place - 52) (-1074) = place := by
      by_cases normal : -1074 < place
      · have := (Nat.le_log2 positive.ne').mpr (full normal)
        omega
      · omega
    have finite : roundWithAccuracy Format.binary64 .positive given start .exact =
        .finite .positive natural place positive := by
      refine roundWithAccuracy_of_shifts positive first ?_
      rw [rounded]
      exact shiftToTargetExponent_self same
    rw [finite]
    exact stored_pack positive short low full
  · have half : 0 < 2 ^ 52 := Nat.two_pow_pos 52
    have carry : place + (1 : ℕ) = max (((2 ^ 53 : ℕ).log2 : ℤ) + place - 52) (-1074) := by
      rw [Nat.log2_two_pow]
      omega
    have finite : roundWithAccuracy Format.binary64 .positive given start .exact =
        .finite .positive (2 ^ 52) (place + (1 : ℕ)) half := by
      refine roundWithAccuracy_of_shifts half first ?_
      rw [rounded]
      exact shiftToTargetExponent_eq .exact 1 carry
    have doubled : ((2 ^ 53 : ℕ) : ℚ) * 2 ^ place = (2 ^ 52 : ℕ) * 2 ^ (place + (1 : ℕ)) := by
      rw [shifted_place]
      push_cast
      ring
    rw [finite, doubled]
    exact stored_pack half (by decide) (by omega) fun _ => le_rfl

theorem measures_normalize {given : ℕ} {start : ℤ} (positive : 0 < given) :
    ∃ magnitude, Stored (given * 2 ^ start) magnitude ∧
      Measures (UnpackedFloat.unpack Format.binary64 (UnpackedFloat.pack Format.binary64
        (UnpackedFloat.normalize Format.binary64 given start .positive))) magnitude := by
  have order : compare (given : ℤ) 0 = .gt := Int.compare_eq_gt.mpr (by omega)
  simp only [UnpackedFloat.normalize, order, UnpackedFloat.round, decreaseExponent,
    targetExponent_eq, Int.toNat_natCast, Nat.shiftLeft_eq]
  generalize shifted : (start - max ((given.log2 : ℤ) + start - 52) (-1074)).toNat = count
  have bits : given.log2 + count ≤ (given * 2 ^ count).log2 := by
    rw [Nat.le_log2 (by positivity), pow_add]
    exact Nat.mul_le_mul_right _ (Nat.log2_self_le positive.ne')
  have enough : 52 ≤ (given * 2 ^ count).log2 ∨ start - count ≤ -1074 := by omega
  have value : ((given * 2 ^ count : ℕ) : ℚ) * 2 ^ (start - count) = given * 2 ^ start := by
    rw [zpow_sub₀ two_ne_zero, zpow_natCast]
    push_cast
    field_simp
  rw [← value]
  exact measures_roundWithAccuracy enough

end ProtocolGate.Decimal
