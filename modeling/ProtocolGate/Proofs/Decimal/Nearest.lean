import ProtocolGate.Proofs.Decimal.Rounding

/-!
Rounding to the nearest number. A mantissa with its residual bits says all of the value that it was
cut from that rounding asks for: a value in the interval of a number, between the midpoints to its
two neighbours, is rounded to that number.
-/

namespace ProtocolGate.Decimal

open Float.Model (Format UnpackedFloat totalExponent)
open Float.Model.UnpackedFloat

/-- What a mantissa and its two residual bits say of the number that they were cut from. -/
def Shows (extended : ExtendedMantissa) (value : ℚ) : Prop :=
  match extended.roundBit, extended.stickyBit with
  | false, false => value = extended.mantissa
  | false, true => extended.mantissa < value ∧ value < extended.mantissa + 1 / 2
  | true, false => value = extended.mantissa + 1 / 2
  | true, true => extended.mantissa + 1 / 2 < value ∧ value < extended.mantissa + 1

theorem Shows.shiftRightOne {extended : ExtendedMantissa} {value : ℚ}
    (shows : Shows extended value) : Shows extended.shiftRightOne (value / 2) := by
  obtain ⟨mantissa, roundBit, stickyBit⟩ := extended
  have parts : (mantissa : ℚ) = 2 * (mantissa / 2 : ℕ) + (mantissa % 2 != 0).toNat := by
    have last : (mantissa % 2 != 0).toNat = mantissa % 2 := by
      rcases Nat.mod_two_eq_zero_or_one mantissa with bit | bit <;> rw [bit] <;> rfl
    rw [last]
    exact_mod_cast (Nat.div_add_mod mantissa 2).symm
  simp only [ExtendedMantissa.shiftRightOne]
  -- The last bit becomes the round bit, and the former two bits become one.
  generalize (mantissa % 2 != 0) = last at parts ⊢
  cases last <;> cases roundBit <;> cases stickyBit <;>
    simp only [Shows, Bool.or_false, Bool.or_true, Bool.toNat_false, Bool.toNat_true,
      Nat.cast_zero, Nat.cast_one] at parts shows ⊢ <;>
    first | linarith | (constructor <;> linarith)

theorem Shows.shiftRight {extended : ExtendedMantissa} {value : ℚ} (shows : Shows extended value)
    (count : ℕ) : Shows (extended >>> count) (value / 2 ^ count) := by
  induction count with
  | zero => simpa [HShiftRight.hShiftRight, Nat.repeat] using shows
  | succ count ih =>
      have halved := ih.shiftRightOne
      rwa [div_div, ← pow_succ] at halved

def Around (natural : ℕ) (value : ℚ) : Prop :=
  (natural - 1 / 2 < value ∨ natural - 1 / 2 = value ∧ natural % 2 = 0) ∧
    (value < natural + 1 / 2 ∨ value = natural + 1 / 2 ∧ natural % 2 = 0)

theorem Shows.rounded_eq {extended : ExtendedMantissa} {value : ℚ} {natural : ℕ}
    (shows : Shows extended value) (around : Around natural value) :
    extended.roundedMantissa = natural := by
  obtain ⟨mantissa, roundBit, stickyBit⟩ := extended
  obtain ⟨above, under⟩ := around
  have le_of_lt {left right : ℕ} (less : (left : ℚ) < right + 1) : left ≤ right := by
    have : left < right + 1 := by exact_mod_cast less
    omega
  cases roundBit <;> cases stickyBit <;>
    simp only [Shows, ExtendedMantissa.roundedMantissa, ExtendedMantissa.accuracy,
      Accuracy.roundToNearestEven] at shows ⊢
  · have lower : mantissa ≤ natural := le_of_lt (by rcases under with h | h <;> linarith)
    have upper : natural ≤ mantissa := le_of_lt (by rcases above with h | h <;> linarith)
    omega
  · have lower : mantissa ≤ natural := le_of_lt (by rcases under with h | h <;> linarith)
    have upper : natural ≤ mantissa := le_of_lt (by rcases above with h | h <;> linarith)
    omega
  · have lower : mantissa ≤ natural := le_of_lt (by rcases under with h | h <;> linarith)
    have upper : natural ≤ mantissa + 1 := by
      refine le_of_lt ?_
      push_cast
      rcases above with h | h <;> linarith
    rcases Nat.eq_or_lt_of_le lower with rfl | less
    · obtain ⟨_, even⟩ := under.resolve_left (by linarith)
      omega
    · obtain rfl : natural = mantissa + 1 := by omega
      push_cast at above
      obtain ⟨_, even⟩ := above.resolve_left (by linarith)
      omega
  · have lower : mantissa + 1 ≤ natural := by
      refine le_of_lt ?_
      push_cast
      rcases under with h | h <;> linarith
    have upper : natural ≤ mantissa + 1 := by
      refine le_of_lt ?_
      push_cast
      rcases above with h | h <;> linarith
    omega

structure Canonical (mantissa : ℕ) (exponent : ℤ) : Prop where
  positive : 0 < mantissa
  short : mantissa < 2 ^ 53
  low : -1074 ≤ exponent
  high : exponent ≤ 971
  full : -1074 < exponent → 2 ^ 52 ≤ mantissa

def reachBelow (mantissa : ℕ) (exponent : ℤ) : ℚ :=
  if mantissa = 2 ^ 52 ∧ -1074 < exponent then 1 / 4 else 1 / 2

theorem reachBelow_bounds (mantissa : ℕ) (exponent : ℤ) :
    0 < reachBelow mantissa exponent ∧ reachBelow mantissa exponent ≤ 1 / 2 := by
  unfold reachBelow
  split <;> norm_num

/-- A value lies between the midpoints to the two neighbours of a number, and is a midpoint only if
the mantissa is even. -/
@[mk_iff]
structure RoundsTo (value : ℚ) (mantissa : ℕ) (exponent : ℤ) : Prop where
  above : (mantissa - reachBelow mantissa exponent) * 2 ^ exponent < value ∨
    (mantissa - reachBelow mantissa exponent) * 2 ^ exponent = value ∧ mantissa % 2 = 0
  under : value < (mantissa + 1 / 2) * 2 ^ exponent ∨
    value = (mantissa + 1 / 2) * 2 ^ exponent ∧ mantissa % 2 = 0

theorem RoundsTo.le {value : ℚ} {mantissa : ℕ} {exponent : ℤ}
    (rounds : RoundsTo value mantissa exponent) :
    (mantissa - reachBelow mantissa exponent) * 2 ^ exponent ≤ value ∧
      value ≤ (mantissa + 1 / 2) * 2 ^ exponent := by
  constructor
  · rcases rounds.above with less | ⟨same, _⟩
    · exact less.le
    · exact same.le
  · rcases rounds.under with less | ⟨same, _⟩
    · exact less.le
    · exact same.le

section Place

variable {value : ℚ} {mantissa : ℕ} {exponent place : ℤ}

theorem RoundsTo.around_same (rounds : RoundsTo value mantissa exponent)
    (leading : -1074 < exponent → 2 ^ 52 * 2 ^ exponent ≤ value) :
    Around mantissa (value / 2 ^ exponent) := by
  have unit : (0 : ℚ) < 2 ^ exponent := by positivity
  constructor
  · have above := rounds.above
    unfold reachBelow at above
    rw [lt_div_iff₀ unit, eq_div_iff unit.ne']
    split at above
    · rename_i narrow
      have whole := leading narrow.2
      left
      rw [narrow.1]
      push_cast
      linarith
    · exact above
  · rw [div_lt_iff₀ unit, div_eq_iff unit.ne']
    exact rounds.under

theorem RoundsTo.around_carry (rounds : RoundsTo value mantissa exponent)
    (canonical : Canonical mantissa exponent) (below : place < exponent) (least : -1074 ≤ place)
    (fits : value < 2 ^ 53 * 2 ^ place) :
    place + 1 = exponent ∧ mantissa = 2 ^ 52 ∧ Around (2 ^ 53) (value / 2 ^ place) := by
  obtain ⟨lower, upper⟩ := rounds.le
  have step (n : ℤ) : (2 : ℚ) ^ (n + 1) = 2 * 2 ^ n := by
    rw [zpow_add_one₀ two_ne_zero, mul_comm]
  have mono {left right : ℤ} (le : left ≤ right) : (2 : ℚ) ^ left ≤ 2 ^ right :=
    zpow_le_zpow_right₀ one_le_two le
  have unit : (0 : ℚ) < 2 ^ place := by positivity
  have power : mantissa = 2 ^ 52 := by
    have full : 2 ^ 52 ≤ mantissa := canonical.full (by omega)
    refine le_antisymm (not_lt.mp fun more => ?_) full
    have more : (2 : ℚ) ^ 52 + 1 ≤ mantissa := by exact_mod_cast more
    have next := mono (show place + 1 ≤ exponent by omega)
    have reach := (reachBelow_bounds mantissa exponent).2
    rw [step] at next
    nlinarith
  subst power
  have normal : -1074 < exponent := by omega
  rw [reachBelow, if_pos ⟨rfl, normal⟩] at lower
  push_cast at lower
  have near : place + 1 = exponent := by
    by_contra far
    have farther := mono (show place + 1 + 1 ≤ exponent by omega)
    rw [step, step] at farther
    nlinarith
  subst near
  rw [step] at lower
  refine ⟨rfl, rfl, ?_, Or.inl ?_⟩
  · rcases eq_or_lt_of_le lower with same | less
    · right
      refine ⟨?_, by norm_num⟩
      rw [eq_div_iff unit.ne', ← same]
      push_cast
      ring
    · left
      rw [lt_div_iff₀ unit]
      push_cast
      linarith
  · rw [div_lt_iff₀ unit]
    push_cast
    linarith

/-- A value that is cut at the place where its leading 53 bits end, or at the least place, is cut
at the last place of the number that it rounds to, or one place below a power of two. -/
theorem RoundsTo.around (rounds : RoundsTo value mantissa exponent)
    (canonical : Canonical mantissa exponent) (least : -1074 ≤ place)
    (fits : value < 2 ^ 53 * 2 ^ place)
    (leading : -1074 < place → 2 ^ 52 * 2 ^ place ≤ value) :
    place = exponent ∧ Around mantissa (value / 2 ^ place) ∨
      place + 1 = exponent ∧ mantissa = 2 ^ 52 ∧ Around (2 ^ 53) (value / 2 ^ place) := by
  rcases lt_trichotomy place exponent with below | rfl | beyond
  · exact .inr (rounds.around_carry canonical below least fits)
  · exact .inl ⟨rfl, rounds.around_same leading⟩
  -- A wider place would need more bits than the mantissa has.
  · obtain ⟨_, upper⟩ := rounds.le
    have low := canonical.low
    have short : (mantissa : ℚ) + 1 ≤ 2 ^ 53 := by exact_mod_cast canonical.short
    have normal := leading (by omega)
    have unit : (0 : ℚ) < 2 ^ exponent := by positivity
    have next : (2 : ℚ) ^ (exponent + 1) ≤ 2 ^ place :=
      zpow_le_zpow_right₀ one_le_two (by omega)
    rw [zpow_add_one₀ two_ne_zero] at next
    nlinarith

end Place

theorem targetExponent_eq (mantissa : ℕ) (exponent : ℤ) :
    Format.binary64.targetExponent (totalExponent mantissa exponent) =
      max (mantissa.log2 + exponent - 52) (-1074) := by
  simp only [Format.targetExponent, totalExponent, Format.mantissaBits, Format.minExponent]
  omega

theorem shiftToTargetExponent_eq {mantissa : ℕ} {exponent : ℤ} (accuracy : Accuracy) (count : ℕ)
    (reach : exponent + count = max (mantissa.log2 + exponent - 52) (-1074)) :
    shiftToTargetExponent Format.binary64 mantissa exponent accuracy =
      (ExtendedMantissa.ofMantissaAndAccuracy mantissa accuracy >>> count, exponent + count) := by
  have amount : (max (mantissa.log2 + exponent - 52) (-1074) - exponent).toNat = count := by omega
  simp only [shiftToTargetExponent, shiftToExponent, targetExponent_eq, amount]

theorem Canonical.log2_lt {mantissa : ℕ} {exponent : ℤ}
    (canonical : Canonical mantissa exponent) : mantissa.log2 < 53 :=
  (Nat.log2_lt canonical.positive.ne').mpr canonical.short

theorem Canonical.log2 {mantissa : ℕ} {exponent : ℤ} (canonical : Canonical mantissa exponent) :
    max (mantissa.log2 + exponent - 52) (-1074) = exponent := by
  have bits := canonical.log2_lt
  have low := canonical.low
  by_cases least : exponent = -1074
  · omega
  · have full := (Nat.le_log2 canonical.positive.ne').mpr (canonical.full (by omega))
    omega

theorem Shows.bounds {mantissa : ℕ} {accuracy : Accuracy} {value : ℚ}
    (shows : Shows (ExtendedMantissa.ofMantissaAndAccuracy mantissa accuracy) value) :
    mantissa ≤ value ∧ value < mantissa + 1 := by
  match accuracy with
  | .exact =>
      obtain rfl : value = mantissa := shows
      exact ⟨le_rfl, lt_add_one _⟩
  | .inexact .lt =>
      obtain ⟨above, under⟩ : (mantissa : ℚ) < value ∧ value < mantissa + 1 / 2 := shows
      exact ⟨above.le, by linarith⟩
  | .inexact .eq =>
      obtain rfl : value = mantissa + 1 / 2 := shows
      exact ⟨by linarith, by linarith⟩
  | .inexact .gt =>
      obtain ⟨above, under⟩ : (mantissa : ℚ) + 1 / 2 < value ∧ value < mantissa + 1 := shows
      exact ⟨by linarith, under⟩

theorem roundWithAccuracy_of_shifts {sign : Sign} {given mantissa : ℕ} {start place exponent : ℤ}
    {accuracy : Accuracy} {extended : ExtendedMantissa} (positive : 0 < mantissa)
    (first : shiftToTargetExponent Format.binary64 given start accuracy = (extended, place))
    (second : shiftToTargetExponent Format.binary64 extended.roundedMantissa place .exact =
      (⟨mantissa, false, false⟩, exponent)) :
    roundWithAccuracy Format.binary64 sign given start accuracy =
      .finite sign mantissa exponent positive := by
  simp only [roundWithAccuracy, first, second]
  exact dif_neg positive.ne'

structure CutAt (value : ℚ) (place : ℤ) : Prop where
  least : -1074 ≤ place
  fits : value < 2 ^ 53 * 2 ^ place
  leading : -1074 < place → 2 ^ 52 * 2 ^ place ≤ value

section Shift

variable {given count : ℕ} {start : ℤ} {accuracy : Accuracy} {value : ℚ}

theorem exists_count (enough : 52 ≤ given.log2 ∨ start ≤ -1074) :
    ∃ count : ℕ, start + count = max ((given.log2 : ℤ) + start - 52) (-1074) :=
  ⟨(max ((given.log2 : ℤ) + start - 52) (-1074) - start).toNat, by omega⟩

theorem shifted_place (start : ℤ) (count : ℕ) :
    (2 : ℚ) ^ (start + count) = 2 ^ count * 2 ^ start := by
  rw [zpow_add₀ two_ne_zero, zpow_natCast, mul_comm]

theorem shifted_value (value : ℚ) (start : ℤ) (count : ℕ) :
    value * 2 ^ start / 2 ^ (start + count) = value / 2 ^ count := by
  have unit : (0 : ℚ) < 2 ^ start := by positivity
  rw [shifted_place, mul_div_mul_right _ _ unit.ne']

theorem Shows.cutAt
    (shows : Shows (ExtendedMantissa.ofMantissaAndAccuracy given accuracy) value)
    (enough : 52 ≤ given.log2 ∨ start ≤ -1074)
    (reach : start + count = max ((given.log2 : ℤ) + start - 52) (-1074)) :
    CutAt (value * 2 ^ start) (start + count) := by
  obtain ⟨atLeast, less⟩ := shows.bounds
  have unit : (0 : ℚ) < 2 ^ start := by positivity
  refine ⟨by omega, ?_, fun normal => ?_⟩
  · have bits : given + 1 ≤ 2 ^ (53 + count) := by
      calc given + 1 ≤ 2 ^ (given.log2 + 1) := Nat.lt_log2_self
        _ ≤ 2 ^ (53 + count) := Nat.pow_le_pow_right two_pos (by omega)
    have bits : (given : ℚ) + 1 ≤ 2 ^ 53 * 2 ^ count := by
      rw [← pow_add]
      exact_mod_cast bits
    rw [shifted_place, ← mul_assoc]
    exact mul_lt_mul_of_pos_right (less.trans_le bits) unit
  · have bits : 2 ^ (52 + count) ≤ given := by
      have nonzero : given ≠ 0 := by
        rintro rfl
        simp at reach enough
        omega
      exact (Nat.le_log2 nonzero).mp (by omega)
    have bits : (2 : ℚ) ^ 52 * 2 ^ count ≤ given := by
      rw [← pow_add]
      exact_mod_cast bits
    rw [shifted_place, ← mul_assoc]
    exact mul_le_mul_of_nonneg_right (bits.trans atLeast) unit.le

end Shift

theorem shiftToTargetExponent_self {mantissa : ℕ} {exponent : ℤ}
    (same : max (mantissa.log2 + exponent - 52) (-1074) = exponent) :
    shiftToTargetExponent Format.binary64 mantissa exponent .exact =
      (⟨mantissa, false, false⟩, exponent) := by
  have second : exponent + (0 : ℕ) = max (mantissa.log2 + exponent - 52) (-1074) := by
    rw [same, Nat.cast_zero, add_zero]
  have kept := shiftToTargetExponent_eq .exact 0 second
  rw [Nat.cast_zero, add_zero] at kept
  exact kept

theorem roundWithAccuracy_eq {mantissa : ℕ} {exponent : ℤ} (canonical : Canonical mantissa exponent)
    (sign : Sign) {given : ℕ} {start : ℤ} {accuracy : Accuracy} {value : ℚ}
    (shows : Shows (ExtendedMantissa.ofMantissaAndAccuracy given accuracy) value)
    (enough : 52 ≤ given.log2 ∨ start ≤ -1074)
    (rounds : RoundsTo (value * 2 ^ start) mantissa exponent) :
    roundWithAccuracy Format.binary64 sign given start accuracy =
      .finite sign mantissa exponent canonical.positive := by
  obtain ⟨count, reach⟩ := exists_count enough
  have first := shiftToTargetExponent_eq accuracy count reach
  have shifted := shows.shiftRight count
  have cut := shows.cutAt enough reach
  have around := rounds.around canonical cut.least cut.fits cut.leading
  rw [shifted_value] at around
  -- The second shift moves nothing, unless rounding has carried into a 54th bit.
  refine roundWithAccuracy_of_shifts canonical.positive first ?_
  rcases around with ⟨same, around⟩ | ⟨next, power, around⟩
  · rw [same, shifted.rounded_eq around]
    exact shiftToTargetExponent_self canonical.log2
  · subst power
    rw [shifted.rounded_eq around, ← next]
    refine shiftToTargetExponent_eq .exact 1 ?_
    rw [Nat.log2_two_pow]
    omega

theorem shows_exact (mantissa : ℕ) :
    Shows (ExtendedMantissa.ofMantissaAndAccuracy mantissa .exact) mantissa :=
  rfl

theorem shows_quotient (dividend : ℕ) {divisor : ℕ} (positive : 0 < divisor) :
    Shows (ExtendedMantissa.ofMantissaAndAccuracy (dividend / divisor)
      (accuracyOfFraction (dividend % divisor) divisor)) (dividend / divisor) := by
  have scale : (0 : ℚ) < divisor := by exact_mod_cast positive
  have remainder : ((dividend % divisor : ℕ) : ℚ) < divisor := by
    exact_mod_cast Nat.mod_lt dividend positive
  have parts : (dividend : ℚ) / divisor =
      (dividend / divisor : ℕ) + (dividend % divisor : ℕ) / divisor := by
    rw [add_div' _ _ _ scale.ne', div_left_inj' scale.ne', mul_comm]
    exact_mod_cast (Nat.div_add_mod dividend divisor).symm
  rw [parts]
  unfold accuracyOfFraction
  split
  · rename_i exact
    rw [exact]
    simp [Shows, ExtendedMantissa.ofMantissaAndAccuracy]
  · rename_i inexact
    have rest : (0 : ℚ) < (dividend % divisor : ℕ) / divisor := by
      have : (0 : ℚ) < (dividend % divisor : ℕ) := by exact_mod_cast Nat.pos_of_ne_zero inexact
      positivity
    have whole : ((dividend % divisor : ℕ) : ℚ) / divisor < 1 := (div_lt_one scale).mpr remainder
    cases order : compare (2 * (dividend % divisor)) divisor with
    | lt =>
        have half : ((dividend % divisor : ℕ) : ℚ) / divisor < 1 / 2 := by
          rw [div_lt_div_iff₀ scale two_pos, mul_comm, one_mul]
          exact_mod_cast Nat.compare_eq_lt.mp order
        exact ⟨lt_add_of_pos_right _ rest, (add_lt_add_iff_left _).mpr half⟩
    | eq =>
        have half : ((dividend % divisor : ℕ) : ℚ) / divisor = 1 / 2 := by
          rw [div_eq_div_iff scale.ne' two_ne_zero, mul_comm, one_mul]
          exact_mod_cast Nat.compare_eq_eq.mp order
        rw [half]
        rfl
    | gt =>
        have half : 1 / 2 < ((dividend % divisor : ℕ) : ℚ) / divisor := by
          rw [div_lt_div_iff₀ two_pos scale, mul_comm _ 2, one_mul]
          exact_mod_cast Nat.compare_eq_gt.mp order
        exact ⟨(add_lt_add_iff_left _).mpr half, (add_lt_add_iff_left _).mpr whole⟩

section Operations

variable {mantissa left right : ℕ} {exponent leftExponent rightExponent : ℤ}

theorem mul_eq (canonical : Canonical mantissa exponent) (leftPositive : 0 < left)
    (rightPositive : 0 < right) (full : 2 ^ 52 ≤ left)
    (rounds : RoundsTo (left * 2 ^ leftExponent * (right * 2 ^ rightExponent)) mantissa exponent) :
    UnpackedFloat.mul Format.binary64 (.finite .positive left leftExponent leftPositive)
        (.finite .positive right rightExponent rightPositive) =
      .finite .positive mantissa exponent canonical.positive := by
  have bits : 52 ≤ (left * right).log2 := by
    refine (Nat.le_log2 (Nat.mul_pos leftPositive rightPositive).ne').mpr ?_
    exact full.trans (Nat.le_mul_of_pos_right left rightPositive)
  refine roundWithAccuracy_eq canonical _ (shows_exact (left * right)) (.inl bits) ?_
  convert rounds using 1
  rw [zpow_add₀ two_ne_zero]
  push_cast
  ring

theorem div_eq (canonical : Canonical mantissa exponent) (leftPositive : 0 < left)
    (rightPositive : 0 < right)
    (rounds : RoundsTo (left * 2 ^ leftExponent / (right * 2 ^ rightExponent)) mantissa
      exponent) :
    UnpackedFloat.div Format.binary64 (.finite .positive left leftExponent leftPositive)
        (.finite .positive right rightExponent rightPositive) =
      .finite .positive mantissa exponent canonical.positive := by
  simp only [UnpackedFloat.div, divCore]
  generalize target : min (leftExponent - rightExponent) (Format.binary64.targetExponent
    (totalExponent left leftExponent - totalExponent right rightExponent)) = start
  generalize amount : (leftExponent - rightExponent - start).toNat = count
  have reach : leftExponent = rightExponent + start + count := by omega
  rw [Nat.shiftLeft_eq]
  have shows := shows_quotient (left * 2 ^ count) rightPositive
  refine roundWithAccuracy_eq canonical _ shows ?_ ?_
  · by_cases least : start ≤ -1074
    · exact .inr least
    · left
      have width : Format.binary64.mantissaBits = 53 := rfl
      have floor : Format.binary64.minExponent = -1074 := rfl
      simp only [Format.targetExponent, totalExponent] at target
      have quotient : 2 ^ 52 ≤ left * 2 ^ count / right := by
        rw [Nat.le_div_iff_mul_le rightPositive]
        calc 2 ^ 52 * right ≤ 2 ^ 52 * 2 ^ (right.log2 + 1) :=
              Nat.mul_le_mul_left _ Nat.lt_log2_self.le
          _ = 2 ^ (52 + (right.log2 + 1)) := (pow_add 2 52 _).symm
          _ ≤ 2 ^ (left.log2 + count) := Nat.pow_le_pow_right two_pos (by omega)
          _ = 2 ^ left.log2 * 2 ^ count := pow_add 2 _ _
          _ ≤ left * 2 ^ count := Nat.mul_le_mul_right _ (Nat.log2_self_le leftPositive.ne')
      exact (Nat.le_log2 (by omega)).mpr quotient
  · convert rounds using 1
    have unit : (0 : ℚ) < 2 ^ rightExponent := by positivity
    have divisor : (0 : ℚ) < right := by exact_mod_cast rightPositive
    rw [reach, zpow_add₀ two_ne_zero, zpow_add₀ two_ne_zero, zpow_natCast]
    push_cast
    field_simp

end Operations

end ProtocolGate.Decimal
