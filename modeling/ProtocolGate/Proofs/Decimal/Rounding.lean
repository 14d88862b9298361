import Mathlib
import ProtocolGate.Vocabulary

/-!
Bounds that rounding keeps. A number that is at most a power of two, or exceeds it by less than
rounding can see, is rounded to one that is at most that power. So a sum of small numbers that has
grown to a power of two stops there, and no sum of them overflows.
-/

namespace ProtocolGate.Decimal

open Float.Model (Format UnpackedFloat totalExponent)
open Float.Model.UnpackedFloat

/-- A number without sign, at most `2 ^ limit`, with an exponent that the format has. -/
def Within (limit : Int) : UnpackedFloat → Prop
  | .zero .positive => True
  | .finite .positive mantissa exponent _ =>
    -1074 ≤ exponent ∧ exponent ≤ limit ∧ mantissa ≤ 2 ^ (limit - exponent).toNat
  | _ => False

instance (limit : Int) : DecidablePred (Within limit)
  | .zero .positive => inferInstanceAs (Decidable True)
  | .finite .positive mantissa exponent _ =>
    inferInstanceAs (Decidable (-1074 ≤ exponent ∧ exponent ≤ limit ∧
      mantissa ≤ 2 ^ (limit - exponent).toNat))
  | .zero .negative | .finite .negative .. | .infinity _ | .notANumber =>
    inferInstanceAs (Decidable False)

theorem Within.mono {limit larger : Int} {number : UnpackedFloat} (within : Within limit number)
    (le : limit ≤ larger) : Within larger number := by
  match number, within with
  | .zero .positive, _ => trivial
  | .finite .positive mantissa exponent _, ⟨low, high, small⟩ =>
      refine ⟨low, by omega, Nat.le_trans small ?_⟩
      exact Nat.pow_le_pow_right (by decide) (by omega)

theorem shift_le (mantissa count : Nat) :
    let shifted := (⟨mantissa, false, false⟩ : ExtendedMantissa) >>> count
    2 ^ count * (2 * shifted.mantissa + shifted.roundBit.toNat) ≤ 2 * mantissa := by
  induction count with
  | zero => exact Nat.le_of_eq (by simp [HShiftRight.hShiftRight, Nat.repeat])
  | succ count ih =>
      have step : (⟨mantissa, false, false⟩ : ExtendedMantissa) >>> (count + 1) =
        ((⟨mantissa, false, false⟩ : ExtendedMantissa) >>> count).shiftRightOne := rfl
      rw [step]
      generalize (⟨mantissa, false, false⟩ : ExtendedMantissa) >>> count = shifted at ih
      have halves : 2 * (shifted.mantissa / 2) + (shifted.mantissa % 2 != 0).toNat =
          shifted.mantissa := by
        rcases Nat.mod_two_eq_zero_or_one shifted.mantissa with even | odd
        · simp [even]; omega
        · simp [odd]; omega
      calc 2 ^ (count + 1) * (2 * (shifted.mantissa / 2) + (shifted.mantissa % 2 != 0).toNat)
          = 2 ^ count * (2 * shifted.mantissa) := by
            rw [halves, Nat.pow_succ, Nat.mul_assoc]
        _ ≤ 2 ^ count * (2 * shifted.mantissa + shifted.roundBit.toNat) :=
            Nat.mul_le_mul_left _ (Nat.le_add_right _ _)
        _ ≤ 2 * mantissa := ih

theorem roundedMantissa_le (extended : ExtendedMantissa) :
    extended.roundedMantissa ≤ extended.mantissa + extended.roundBit.toNat := by
  obtain ⟨mantissa, roundBit, stickyBit⟩ := extended
  cases roundBit <;> cases stickyBit <;>
    simp only [ExtendedMantissa.roundedMantissa, ExtendedMantissa.accuracy,
      Accuracy.roundToNearestEven, Bool.toNat] <;>
    simp
  omega

theorem rounded_le (mantissa count : Nat) :
    2 * (2 ^ count *
      ((⟨mantissa, false, false⟩ : ExtendedMantissa) >>> count).roundedMantissa) ≤
      2 * mantissa + 2 ^ count := by
  have shifted := shift_le mantissa count
  dsimp only at shifted
  have rounded := roundedMantissa_le ((⟨mantissa, false, false⟩ : ExtendedMantissa) >>> count)
  generalize (⟨mantissa, false, false⟩ : ExtendedMantissa) >>> count = extended at shifted rounded ⊢
  have scaled := Nat.mul_le_mul_left (2 ^ count) rounded
  have bit : 2 ^ count * extended.roundBit.toNat ≤ 2 ^ count * 1 :=
    Nat.mul_le_mul_left _ (Bool.toNat_le _)
  rw [Nat.mul_add] at scaled
  rw [Nat.mul_add, ← Nat.mul_assoc, Nat.mul_comm _ 2, Nat.mul_assoc] at shifted
  omega

/-- A mantissa exceeds a power of two by so little that rounding to 53 bits does not see it. -/
def Nearly (mantissa room : Nat) : Prop :=
  mantissa * 2 ^ 54 ≤ 2 ^ room * (2 ^ 54 + 1)

theorem Nearly.of_le {mantissa room : Nat} (le : mantissa ≤ 2 ^ room) : Nearly mantissa room :=
  Nat.mul_le_mul le (by decide)

theorem Nearly.log2_le {mantissa room : Nat} (nearly : Nearly mantissa room) :
    mantissa.log2 ≤ room := by
  by_cases zero : mantissa = 0
  · simp [zero]
  · refine Nat.le_of_lt_succ ((Nat.log2_lt zero).mpr ?_)
    have positive := Nat.two_pow_pos room
    rw [Nat.pow_succ]
    unfold Nearly at nearly
    omega

theorem Nearly.rounded_le {mantissa room count : Nat} (nearly : Nearly mantissa room)
    (fits : count ≤ room) (enough : mantissa.log2 ≤ 52 + count) :
    ((⟨mantissa, false, false⟩ : ExtendedMantissa) >>> count).roundedMantissa ≤
      2 ^ (room - count) := by
  have rounded := Decimal.rounded_le mantissa count
  generalize ((⟨mantissa, false, false⟩ : ExtendedMantissa) >>> count).roundedMantissa = result
    at rounded ⊢
  have unit := Nat.two_pow_pos count
  have split : 2 ^ room = 2 ^ count * 2 ^ (room - count) := by
    rw [← Nat.pow_add, Nat.add_sub_cancel' fits]
  refine Nat.le_of_not_lt fun exceeds => ?_
  have scaled := Nat.mul_le_mul_left (2 ^ count) exceeds
  rw [Nat.mul_succ, ← split] at scaled
  by_cases below : mantissa < 2 ^ room
  · omega
  · -- The mantissa has more bits than are kept, so half a unit is more than its excess.
    have zero : mantissa ≠ 0 := by
      have := Nat.two_pow_pos room
      omega
    have long := (Nat.le_log2 zero).mpr (Nat.le_of_not_lt below)
    have excess : 2 ^ room ≤ 2 ^ count * 2 ^ 52 := by
      rw [split]
      exact Nat.mul_le_mul_left _ (Nat.pow_le_pow_right (by decide) (by omega))
    unfold Nearly at nearly
    omega

theorem exists_shift (mantissa : Nat) (exponent : Int) :
    ∃ count : Nat,
      shiftToTargetExponent Format.binary64 mantissa exponent .exact =
        ((⟨mantissa, false, false⟩ : ExtendedMantissa) >>> count, exponent + count) ∧
      -1074 ≤ exponent + count ∧ mantissa.log2 ≤ 52 + count ∧
      ∀ room : Nat, -1074 ≤ exponent + room → mantissa.log2 ≤ 52 + room → count ≤ room := by
  refine ⟨_, rfl, ?_⟩
  simp only [Format.targetExponent, totalExponent, Format.mantissaBits, Format.minExponent]
  refine ⟨by omega, by omega, fun room low enough => by omega⟩

theorem within_roundWithAccuracy {mantissa : Nat} {exponent limit : Int} (room : Nat)
    (low : -1074 ≤ limit) (reach : exponent + room = limit) (nearly : Nearly mantissa room) :
    Within limit (UnpackedFloat.roundWithAccuracy Format.binary64 .positive mantissa exponent
      .exact) := by
  have bits := nearly.log2_le
  obtain ⟨count, first, _, enough, least⟩ := exists_shift mantissa exponent
  have fits := least room (by omega) (by omega)
  have rounded := nearly.rounded_le fits enough
  rw [roundWithAccuracy, first]
  dsimp only
  generalize ((⟨mantissa, false, false⟩ : ExtendedMantissa) >>> count).roundedMantissa = result
    at rounded ⊢
  obtain ⟨carry, second, lowEnough, _, _⟩ := exists_shift result (exponent + count)
  rw [second]
  dsimp only
  have shifted := shift_le result carry
  dsimp only at shifted
  generalize ((⟨result, false, false⟩ : ExtendedMantissa) >>> carry) = final at shifted ⊢
  rw [Nat.mul_add] at shifted
  have kept : 2 ^ carry * final.mantissa ≤ 2 ^ (room - count) := by
    rw [← Nat.mul_assoc, Nat.mul_comm _ 2, Nat.mul_assoc] at shifted
    omega
  split
  · trivial
  · rename_i nonzero
    have positive := Nat.pos_of_ne_zero nonzero
    have carries : carry ≤ room - count := by
      refine (Nat.pow_le_pow_iff_right (by decide : 1 < 2)).mp (Nat.le_trans ?_ kept)
      exact Nat.le_mul_of_pos_right _ positive
    refine ⟨lowEnough, by omega, ?_⟩
    have left : (limit - (exponent + count + carry)).toNat = room - count - carry := by omega
    rw [left]
    refine Nat.le_of_mul_le_mul_left ?_ (Nat.two_pow_pos carry)
    rwa [← Nat.pow_add, Nat.add_sub_cancel' carries]

theorem within_round {mantissa : Nat} {exponent limit : Int} (room : Nat) (low : -1074 ≤ limit)
    (reach : exponent + room = limit) (nearly : Nearly mantissa room) :
    Within limit (UnpackedFloat.round Format.binary64 .positive mantissa exponent) := by
  simp only [UnpackedFloat.round, decreaseExponent]
  generalize
    (exponent - Format.binary64.targetExponent (totalExponent mantissa exponent)).toNat = count
  refine within_roundWithAccuracy (room + count) low (by omega) ?_
  rw [Nearly, Nat.shiftLeft_eq, Nat.pow_add, Nat.mul_right_comm, Nat.mul_right_comm (2 ^ room)]
  exact Nat.mul_le_mul_right _ nearly

theorem within_normalize {mantissa : Nat} {exponent limit : Int} (room : Nat)
    (low : -1074 ≤ limit) (reach : exponent + room = limit) (nearly : Nearly mantissa room) :
    Within limit (UnpackedFloat.normalize Format.binary64 mantissa exponent .positive) := by
  unfold UnpackedFloat.normalize
  split
  · rename_i negative
    rw [Int.compare_eq_lt] at negative
    omega
  · trivial
  · exact within_round room low reach nearly

theorem Within.finite_room {limit : Int} {mantissa : Nat} {exponent : Int} {positive}
    (within : Within limit (.finite .positive mantissa exponent positive)) :
    ∃ room : Nat, exponent + room = limit ∧ mantissa ≤ 2 ^ room := by
  obtain ⟨_, high, small⟩ := within
  exact ⟨_, by omega, small⟩

/-- A number that is at most a power of two stays so when it is added to by less than rounding can
see at that power. -/
theorem within_add {limit : Int} (low : -1074 ≤ limit) {total amount : UnpackedFloat}
    (large : Within (limit + 54) total) (small : Within limit amount) :
    Within (limit + 54) (UnpackedFloat.add Format.binary64 total amount) := by
  match total, large, amount, small with
  | .zero .positive, _, .zero .positive, _ => trivial
  | .zero .positive, _, .finite .positive .., small => exact small.mono (by omega)
  | .finite .positive .., large, .zero .positive, _ => exact large
  | .finite .positive mantissa exponent _, large, .finite .positive other otherExponent _, small =>
      obtain ⟨room, reach, le⟩ := large.finite_room
      obtain ⟨otherRoom, otherReach, otherLe⟩ := small.finite_room
      simp only [UnpackedFloat.add, decreaseExponent, Sign.apply, ← Int.natCast_add]
      generalize first : (exponent - min exponent otherExponent).toNat = shift
      generalize second : (otherExponent - min exponent otherExponent).toNat = otherShift
      have scaled := Nat.mul_le_mul_right (2 ^ shift) le
      have otherScaled := Nat.mul_le_mul_right (2 ^ otherShift) otherLe
      have aligned : room + shift = otherRoom + otherShift + 54 := by omega
      refine within_normalize (room + shift) (by omega) (by omega) ?_
      rw [← Nat.pow_add] at scaled otherScaled
      rw [aligned, Nat.pow_add 2 (otherRoom + otherShift) 54] at scaled
      rw [aligned, Nearly, Nat.pow_add 2 (otherRoom + otherShift) 54, Nat.shiftLeft_eq,
        Nat.shiftLeft_eq]
      omega

theorem within_mul {limit otherLimit : Int} (low : -1074 ≤ limit + otherLimit)
    {factor other : UnpackedFloat} (within : Within limit factor)
    (otherWithin : Within otherLimit other) :
    Within (limit + otherLimit) (UnpackedFloat.mul Format.binary64 factor other) := by
  match factor, within, other, otherWithin with
  | .zero .positive, _, .zero .positive, _ => trivial
  | .zero .positive, _, .finite .positive .., _ => trivial
  | .finite .positive .., _, .zero .positive, _ => trivial
  | .finite .positive .., within, .finite .positive .., otherWithin =>
      obtain ⟨room, reach, le⟩ := within.finite_room
      obtain ⟨otherRoom, otherReach, otherLe⟩ := otherWithin.finite_room
      refine within_roundWithAccuracy (room + otherRoom) low (by omega) (.of_le ?_)
      rw [Nat.pow_add]
      exact Nat.mul_le_mul le otherLe

theorem within_ofScientific {size room : Nat} (high : room ≤ 971) (le : size ≤ 2 ^ room) :
    Within room (UnpackedFloat.ofScientific Format.binary64 size 0) := by
  unfold UnpackedFloat.ofScientific
  split
  · trivial
  · rename_i nonzero
    have width : Format.binary64.mantissaBits = 53 := rfl
    have range : (2 : Int) ^ Format.binary64.exponentBits = 2048 := rfl
    have low : -1074 ≤ (room : Int) + 0 := by omega
    rw [if_neg (by decide), if_neg (by omega), if_pos (by decide)]
    have positive : 0 < size <<< Format.binary64.mantissaBits := by
      rw [Nat.shiftLeft_eq]
      exact Nat.mul_pos (Nat.pos_of_ne_zero nonzero) (Nat.two_pow_pos _)
    have scaled : Within room (.finite .positive (size <<< Format.binary64.mantissaBits)
        (-Format.binary64.mantissaBits) positive) := by
      refine ⟨by omega, by omega, ?_⟩
      have exponent : (room - -Format.binary64.mantissaBits : Int).toNat =
          room + Format.binary64.mantissaBits := by omega
      rw [exponent, Nat.shiftLeft_eq, Nat.pow_add]
      exact Nat.mul_le_mul_right _ le
    have unit : Within 0 (.finite .positive (10 ^ (0 : Int).toNat) 0 (by decide)) := by decide
    -- The factors are variables from here on, so that nothing evaluates the product.
    generalize UnpackedFloat.finite .positive (size <<< Format.binary64.mantissaBits) _ _ = factor
      at scaled ⊢
    generalize UnpackedFloat.finite .positive (10 ^ (0 : Int).toNat) _ _ = one at unit ⊢
    have product := within_mul low scaled unit
    rwa [Int.add_zero] at product

theorem unpackSign_packComponents (format : Format) (sign : Sign)
    (exponent : BitVec format.exponentBits) (mantissa : BitVec format.mantissaBitsWithoutImplicit) :
    unpackSign (packComponents format sign exponent mantissa) = sign.toBitVec := by
  apply BitVec.eq_of_getLsbD_eq
  intro index bound
  obtain rfl : index = 0 := by omega
  simp [unpackSign, packComponents, BitVec.getLsbD_append, BitVec.getElem_append]

theorem pack_finite {mantissa : Nat} {exponent : Int} (positive : 0 < mantissa)
    (low : -1074 ≤ exponent) (high : exponent ≤ 971) :
    ∃ field : Nat, exponent + 1075 = field ∧
      UnpackedFloat.pack Format.binary64 (.finite .positive mantissa exponent positive) =
        packComponents Format.binary64 .positive
          (if mantissa.log2 = 52 then BitVec.ofNat 11 field else 0#11)
          (BitVec.ofNat 52 mantissa) := by
  have bias : (Format.binary64.exponentBias : Int) = 1023 := rfl
  refine ⟨(exponent + Format.binary64.exponentBias + (52 : Nat)).toNat, by omega, ?_⟩
  unfold UnpackedFloat.pack
  dsimp only
  rw [if_neg (by omega)]
  have width : Format.binary64.mantissaBits = 53 := rfl
  by_cases normal : mantissa.log2 = 52
  · rw [if_pos normal, if_pos (by omega)]
  · rw [if_neg normal, if_neg (by omega)]

theorem append_implicit (mantissa : Nat) :
    (1#1 ++ BitVec.ofNat 52 mantissa).toNat = 2 ^ 52 + mantissa % 2 ^ 52 := by
  rw [BitVec.toNat_append, ← Nat.shiftLeft_add_eq_or_of_lt (BitVec.isLt _), BitVec.toNat_ofNat]
  rfl

theorem within_unpack_normal {limit : Int} {mantissa field : Nat} (bits : mantissa.log2 = 52)
    (low : 1 ≤ field) (high : field < 2047) (le : (field : Int) - 1075 ≤ limit)
    (small : mantissa ≤ 2 ^ (limit - ((field : Int) - 1075)).toNat) :
    Within limit (UnpackedFloat.unpack Format.binary64
      (packComponents Format.binary64 .positive (BitVec.ofNat 11 field)
        (BitVec.ofNat 52 mantissa))) := by
  have same : (BitVec.ofNat 11 field).toNat = field := by
    rw [BitVec.toNat_ofNat, Nat.mod_eq_of_lt (by omega)]
  have notFull : BitVec.ofNat 11 field ≠ -1#11 := fun full => by
    have := congrArg BitVec.toNat full
    simp [same] at this
    omega
  have notZero : BitVec.ofNat 11 field ≠ 0#11 := fun none => by
    have := congrArg BitVec.toNat none
    simp [same] at this
    omega
  simp only [UnpackedFloat.unpack, unpackExponent_packComponents, unpackMantissa_packComponents,
    unpackSign_packComponents]
  rw [if_neg notFull, if_neg notZero]
  have read : ((BitVec.ofNat 11 field).toNat : Int) -
      (Format.binary64.exponentBias + (52 : Nat)) = (field : Int) - 1075 := by
    have bias : (Format.binary64.exponentBias : Int) = 1023 := rfl
    omega
  change -1074 ≤ _ ∧ _ ≤ limit ∧ _ ≤ _
  rw [read, append_implicit]
  have lower : 2 ^ 52 ≤ mantissa := (Nat.le_log2 fun zero => by simp [zero] at bits).mp (by omega)
  have parts := Nat.mod_add_div mantissa (2 ^ 52)
  exact ⟨by omega, le, by omega⟩

theorem within_unpack_subnormal {limit exponent : Int} {mantissa : Nat} (low : -1074 ≤ exponent)
    (le : exponent ≤ limit) (small : mantissa ≤ 2 ^ (limit - exponent).toNat) :
    Within limit (UnpackedFloat.unpack Format.binary64
      (packComponents Format.binary64 .positive 0#11 (BitVec.ofNat 52 mantissa))) := by
  simp only [UnpackedFloat.unpack, unpackExponent_packComponents, unpackMantissa_packComponents,
    unpackSign_packComponents]
  rw [if_neg (by decide), if_pos trivial]
  split
  · trivial
  · change -1074 ≤ (-1074 : Int) ∧ -1074 ≤ limit ∧ _ ≤ 2 ^ (limit - -1074).toNat
    refine ⟨by decide, by omega, ?_⟩
    rw [BitVec.toNat_ofNat]
    calc mantissa % 2 ^ 52 ≤ mantissa := Nat.mod_le _ _
      _ ≤ 2 ^ (limit - exponent).toNat := small
      _ ≤ 2 ^ (limit - -1074).toNat := Nat.pow_le_pow_right (by decide) (by omega)

theorem within_unpack_pack {limit : Int} (high : limit ≤ 971) {number : UnpackedFloat}
    (within : Within limit number) :
    Within limit
      (UnpackedFloat.unpack Format.binary64 (UnpackedFloat.pack Format.binary64 number)) := by
  match number, within with
  | .zero .positive, _ =>
      have same : UnpackedFloat.unpack Format.binary64
          (UnpackedFloat.pack Format.binary64 (.zero .positive)) = .zero .positive := by rfl
      rw [same]
      trivial
  | .finite .positive mantissa exponent positive, ⟨low, le, small⟩ =>
      obtain ⟨field, represented, packed⟩ := pack_finite positive low (by omega)
      rw [packed]
      by_cases bits : mantissa.log2 = 52
      · rw [if_pos bits]
        obtain rfl : exponent = (field : Int) - 1075 := by omega
        exact within_unpack_normal bits (by omega) (by omega) le small
      · rw [if_neg bits]
        exact within_unpack_subnormal low le small

def AtMost (limit : Int) (number : Float) : Prop :=
  Within limit number.toModel.unpack

namespace AtMost

variable {limit otherLimit : Int} {number other : Float}

theorem mono (atMost : AtMost limit number) (le : limit ≤ otherLimit) : AtMost otherLimit number :=
  Within.mono atMost le

theorem zero : AtMost limit 0 := by
  have same : (0 : Float).toModel.unpack = .zero .positive := by rfl
  rw [AtMost, same]
  trivial

theorem add (low : -1074 ≤ limit) (high : limit ≤ 917) (large : AtMost (limit + 54) number)
    (small : AtMost limit other) : AtMost (limit + 54) (number + other) :=
  within_unpack_pack (by omega) (within_add low large small)

theorem mul (low : -1074 ≤ limit + otherLimit) (high : limit + otherLimit ≤ 971)
    (atMost : AtMost limit number) (otherAtMost : AtMost otherLimit other) :
    AtMost (limit + otherLimit) (number * other) :=
  within_unpack_pack high (within_mul low atMost otherAtMost)

theorem isFinite (atMost : AtMost limit number) : number.isFinite = true := by
  change number.toModel.unpack.isFinite = true
  unfold AtMost at atMost
  match number.toModel.unpack, atMost with
  | .zero .positive, _ => rfl
  | .finite .positive .., _ => rfl

theorem not_negative (atMost : AtMost limit number) : ¬ number < 0 := by
  have same : (0 : Float).toModel.unpack = .zero .positive := by rfl
  intro negative
  have below : number.toModel.unpack.lt (0 : Float).toModel.unpack = true :=
    of_decide_eq_true negative
  rw [same] at below
  unfold AtMost at atMost
  match number.toModel.unpack, atMost, below with
  | .zero .positive, _, below => contradiction
  | .finite .positive .., _, below => contradiction

theorem one : AtMost 0 (Float.ofBits 0x3FF0000000000000) := by
  change Within 0 (Float.ofBits 0x3FF0000000000000).toModel.unpack
  decide +kernel

theorem ofInt {size room : Nat} (high : room ≤ 971) (le : size ≤ 2 ^ room) :
    AtMost room (Decimal.ofInt size) := by
  rw [Decimal.ofInt, if_neg (by omega), Int.natAbs_natCast, Float.ofScientific]
  split
  · rename_i short
    have read : AtMost room size.toUInt64.toFloat := by
      refine within_unpack_pack (by omega) ?_
      have same : size.toUInt64.toNat = size :=
        UInt64.toNat_ofNat_of_lt' (Nat.lt_trans short.1 (by decide))
      rw [Float.Model.UnpackedFloat.ofUInt64, same]
      exact within_normalize room (by omega) (by omega) (.of_le le)
    exact read.mul (by omega) (by omega) one
  · exact within_unpack_pack (by omega) (within_ofScientific (by omega) le)

end AtMost

end ProtocolGate.Decimal
