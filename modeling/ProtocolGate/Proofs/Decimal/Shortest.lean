import ProtocolGate.Decimal.Shortest
import ProtocolGate.Proofs.Decimal.Nearest

/-!
The shortest decimal of a number rounds to the number. The search for it ends on a grid that is
finer than half a unit of the last place, and at the latest there some multiple lies in the interval.
-/

namespace ProtocolGate.Decimal

/-- Both sides of a comparison are the values themselves, scaled by one positive number. -/
theorem exists_scale (digits : ℕ) (tens : ℤ) (quarters : ℕ) (twos : ℤ) :
    ∃ scale : ℚ, 0 < scale ∧
      ((digits * 10 ^ tens.toNat * 2 ^ (-twos).toNat : ℕ) : ℚ) = digits * 10 ^ tens * scale ∧
      ((quarters * 2 ^ twos.toNat * 10 ^ (-tens).toNat : ℕ) : ℚ) = quarters * 2 ^ twos * scale := by
  have split (base : ℚ) (nonzero : base ≠ 0) (power : ℤ) :
      base ^ power.toNat = base ^ power * base ^ (-power).toNat := by
    rw [← zpow_natCast, ← zpow_natCast, ← zpow_add₀ nonzero]
    congr 1
    omega
  refine ⟨10 ^ (-tens).toNat * 2 ^ (-twos).toNat, by positivity, ?_, ?_⟩
  · push_cast
    rw [split 10 (by norm_num) tens]
    ring
  · push_cast
    rw [split 2 two_ne_zero twos]
    ring

section Compare

variable {digits quarters : ℕ} {tens twos : ℤ}

theorem compareScaled_lt_iff :
    compareScaled digits tens quarters twos = .lt ↔
      (digits * 10 ^ tens : ℚ) < quarters * 2 ^ twos := by
  obtain ⟨scale, positive, left, right⟩ := exists_scale digits tens quarters twos
  rw [← mul_lt_mul_iff_left₀ positive, ← left, ← right, Nat.cast_lt]
  exact Nat.compare_eq_lt

theorem compareScaled_eq_iff :
    compareScaled digits tens quarters twos = .eq ↔
      (digits * 10 ^ tens : ℚ) = quarters * 2 ^ twos := by
  obtain ⟨scale, positive, left, right⟩ := exists_scale digits tens quarters twos
  rw [← mul_left_inj' positive.ne', ← left, ← right, Nat.cast_inj]
  exact Nat.compare_eq_eq

theorem compareScaled_gt_iff :
    compareScaled digits tens quarters twos = .gt ↔
      (quarters * 2 ^ twos : ℚ) < digits * 10 ^ tens := by
  obtain ⟨scale, positive, left, right⟩ := exists_scale digits tens quarters twos
  rw [← mul_lt_mul_iff_left₀ positive, ← left, ← right, Nat.cast_lt]
  exact Nat.compare_eq_gt

end Compare

def Scaled.value (decimal : Scaled) : ℚ :=
  decimal.digits * 10 ^ decimal.exponent

def Binary.of (mantissa : ℕ) (exponent : ℤ) : Binary where
  mantissa := mantissa
  exponent := exponent
  narrowBelow := decide (mantissa = 2 ^ 52 ∧ -1074 < exponent)

section Search

variable {mantissa : ℕ} {exponent : ℤ} {decimal : Scaled}

theorem roundsFrom_iff (positive : 0 < mantissa) :
    (Binary.of mantissa exponent).roundsFrom decimal = true ↔
      RoundsTo decimal.value mantissa exponent := by
  have quarter : (4 : ℚ) * 2 ^ (exponent - 2) = 2 ^ exponent := by
    rw [zpow_sub₀ two_ne_zero]
    norm_num
    ring
  have low : ((4 * mantissa - if (Binary.of mantissa exponent).narrowBelow then 1 else 2 : ℕ) : ℚ) *
      2 ^ (exponent - 2) = (mantissa - reachBelow mantissa exponent) * 2 ^ exponent := by
    rw [← quarter, reachBelow, Binary.of]
    by_cases narrow : mantissa = 2 ^ 52 ∧ -1074 < exponent
    · rw [decide_eq_true narrow, if_pos rfl, if_pos narrow, Nat.cast_sub (by omega)]
      push_cast
      ring
    · rw [decide_eq_false narrow, if_neg Bool.false_ne_true, if_neg narrow, Nat.cast_sub (by omega)]
      push_cast
      ring
  have high : ((4 * mantissa + 2 : ℕ) : ℚ) * 2 ^ (exponent - 2) =
      (mantissa + 1 / 2) * 2 ^ exponent := by
    rw [← quarter]
    push_cast
    ring
  rw [roundsTo_iff, ← low, ← high]
  simp only [Binary.roundsFrom, Bool.and_eq_true, Bool.or_eq_true, beq_iff_eq,
    compareScaled_gt_iff, compareScaled_eq_iff, compareScaled_lt_iff]
  refine and_congr (or_congr Iff.rfl ⟨?_, ?_⟩) (or_congr Iff.rfl and_comm)
  · rintro ⟨even, same⟩
    exact ⟨same.symm, even⟩
  · rintro ⟨same, even⟩
    exact ⟨even, same.symm⟩

theorem floorOn_bounds (number : Binary) (grid : ℤ) :
    (number.floorOn grid * 10 ^ grid : ℚ) ≤ number.mantissa * 2 ^ number.exponent ∧
      (number.mantissa * 2 ^ number.exponent : ℚ) < (number.floorOn grid + 1) * 10 ^ grid := by
  obtain ⟨scale, positive, divisor, dividend⟩ :=
    exists_scale 1 grid number.mantissa number.exponent
  rw [Nat.one_mul, Nat.cast_one, one_mul] at divisor
  have floor : number.floorOn grid =
      number.mantissa * 2 ^ number.exponent.toNat * 10 ^ (-grid).toNat /
        (10 ^ grid.toNat * 2 ^ (-number.exponent).toNat) := rfl
  have nonzero : 0 < 10 ^ grid.toNat * 2 ^ (-number.exponent).toNat := by positivity
  rw [floor]
  generalize number.mantissa * 2 ^ number.exponent.toNat * 10 ^ (-grid).toNat = whole at dividend ⊢
  generalize 10 ^ grid.toNat * 2 ^ (-number.exponent).toNat = unit at divisor nonzero ⊢
  have lower : ((whole / unit : ℕ) * unit : ℚ) ≤ whole := by
    exact_mod_cast Nat.div_mul_le_self whole unit
  have upper : (whole : ℚ) < ((whole / unit : ℕ) + 1) * unit := by
    exact_mod_cast Nat.lt_mul_of_div_lt (Nat.lt_succ_self (whole / unit)) nonzero
  rw [divisor, dividend, ← mul_assoc] at lower upper
  exact ⟨le_of_mul_le_mul_right lower positive, lt_of_mul_lt_mul_right upper positive.le⟩

theorem bestOn?_roundsFrom {number : Binary} {grid : ℤ}
    (found : number.bestOn? grid = some decimal) : number.roundsFrom decimal = true := by
  unfold Binary.bestOn? at found
  dsimp only at found
  split at found
  · rename_i lower upper
    obtain rfl := Option.some.inj found
    split
    · exact upper
    · exact lower
  · rename_i lower _
    obtain rfl := Option.some.inj found
    exact lower
  · rename_i _ upper
    obtain rfl := Option.some.inj found
    exact upper
  · contradiction

theorem exists_bestOn? (positive : 0 < mantissa) {grid : ℤ}
    (fine : (10 : ℚ) ^ grid < 2 ^ (exponent - 1)) :
    ∃ decimal, (Binary.of mantissa exponent).bestOn? grid = some decimal := by
  obtain ⟨below, above⟩ := floorOn_bounds (Binary.of mantissa exponent) grid
  have half : (2 : ℚ) ^ exponent = 2 * 2 ^ (exponent - 1) := by
    rw [zpow_sub_one₀ two_ne_zero]
    ring
  have reach := (reachBelow_bounds mantissa exponent).1
  have unit : (0 : ℚ) < 2 ^ exponent := by positivity
  -- The first multiple above the number is near enough, whether or not the one below is.
  have upper : (Binary.of mantissa exponent).roundsFrom
      { digits := (Binary.of mantissa exponent).floorOn grid + 1, exponent := grid } = true := by
    rw [roundsFrom_iff positive, roundsTo_iff]
    generalize (Binary.of mantissa exponent).floorOn grid = floor at below above ⊢
    simp only [Scaled.value, Binary.of, Nat.cast_add, Nat.cast_one] at below above ⊢
    constructor
    · left
      nlinarith
    · left
      linarith
  unfold Binary.bestOn?
  dsimp only
  rw [upper]
  split
  · exact ⟨_, rfl⟩
  · exact ⟨_, rfl⟩
  · exact ⟨_, rfl⟩
  · contradiction

theorem search_roundsFrom {number : Binary} (tries : ℕ) (grid : ℤ)
    (found : ∃ count : ℕ, count < tries ∧ ∃ decimal, number.bestOn? (grid - count) = some decimal) :
    number.roundsFrom (number.search tries grid) = true := by
  induction tries generalizing grid with
  | zero =>
      obtain ⟨_, none, _⟩ := found
      contradiction
  | succ tries ih =>
      unfold Binary.search
      cases here : number.bestOn? grid with
      | some decimal => exact bestOn?_roundsFrom here
      | none =>
          obtain ⟨count, few, decimal, best⟩ := found
          cases count with
          | zero =>
              rw [Nat.cast_zero, sub_zero, here] at best
              contradiction
          | succ count =>
              refine ih (grid - 1) ⟨count, by omega, decimal, ?_⟩
              rw [← best]
              congr 1
              push_cast
              ring

def scaleOf (bits : ℤ) : ℤ :=
  if bits ≥ 0 then bits * 30103 / 100000 + 1 else -((-bits) * 30102 / 100000) + 1

/-- From the scale on, 24 grids are enough to be finer than half a unit of the last of 53 bits. -/
theorem scaleOf_fine : ∀ index : Fin 2098,
    compareScaled 1 (scaleOf ((index : ℤ) - 1073) - 23) 1 ((index : ℤ) - 1073 - 54) = .lt := by
  decide +kernel

theorem Scaled.strip_value (fuel : ℕ) (decimal : Scaled) :
    (Scaled.strip fuel decimal).value = decimal.value := by
  induction fuel generalizing decimal with
  | zero => rfl
  | succ fuel ih =>
      unfold Scaled.strip
      split
      · rename_i ten
        have whole := Nat.dvd_of_mod_eq_zero ten.2
        rw [ih, Scaled.value, Scaled.value, Nat.cast_div whole (by norm_num),
          zpow_add_one₀ (by norm_num)]
        push_cast
        ring
      · rfl

theorem shortest_roundsTo (canonical : Canonical mantissa exponent) :
    RoundsTo (Binary.of mantissa exponent).shortest.value mantissa exponent := by
  have bits := canonical.log2_lt
  have low := canonical.low
  have high := canonical.high
  have scale : (Binary.of mantissa exponent).scale = scaleOf (exponent + mantissa.log2 + 1) := rfl
  have fine := scaleOf_fine ⟨(exponent + mantissa.log2 + 1 + 1073).toNat, by omega⟩
  rw [compareScaled_lt_iff] at fine
  have index : (((exponent + mantissa.log2 + 1 + 1073).toNat : ℕ) : ℤ) - 1073 =
      exponent + mantissa.log2 + 1 := by omega
  simp only [index, Nat.cast_one, one_mul] at fine
  rw [Binary.shortest, Scaled.strip_value, ← roundsFrom_iff canonical.positive, scale]
  refine search_roundsFrom 24 _ ⟨23, by decide, ?_⟩
  refine exists_bestOn? canonical.positive (fine.trans_le ?_)
  exact zpow_le_zpow_right₀ one_le_two (by omega)

end Search

end ProtocolGate.Decimal
