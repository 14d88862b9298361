import ProtocolGate.Decimal.Shortest
import ProtocolGate.Proofs.Decimal.Nearest

/-!
The bits of a finite number: its sign, the field of its exponent and the fraction of its mantissa. A
number in its one form is packed and unpacked without loss.
-/

namespace ProtocolGate.Decimal

open Float.Model (Format UnpackedFloat)
open Float.Model.UnpackedFloat

theorem toNat_unpackMantissa (bits : BitVec 64) :
    (@unpackMantissa Format.binary64 bits).toNat = bits.toNat % 2 ^ 52 := by
  simp [unpackMantissa, BitVec.extractLsb]

theorem toNat_unpackExponent (bits : BitVec 64) :
    (@unpackExponent Format.binary64 bits).toNat = bits.toNat / 2 ^ 52 % 2 ^ 11 := by
  simp [unpackExponent, BitVec.extractLsb, Nat.shiftRight_eq_div_pow]

theorem toNat_unpackSign (bits : BitVec 64) :
    (@unpackSign Format.binary64 bits).toNat = bits.toNat / 2 ^ 63 := by
  have bound := bits.isLt
  simp [unpackSign, BitVec.extractLsb, Nat.shiftRight_eq_div_pow]
  omega

theorem toNat_packComponents (sign : Sign) (exponent : BitVec 11) (mantissa : BitVec 52) :
    (packComponents Format.binary64 sign exponent mantissa).toNat =
      sign.toBitVec.toNat * 2 ^ 63 + exponent.toNat * 2 ^ 52 + mantissa.toNat := by
  have lower := BitVec.isLt mantissa
  have middle := BitVec.isLt exponent
  rw [packComponents, BitVec.toNat_append, BitVec.toNat_append,
    ← Nat.shiftLeft_add_eq_or_of_lt lower, ← Nat.shiftLeft_add_eq_or_of_lt middle,
    Nat.shiftLeft_eq, Nat.shiftLeft_eq]
  ring_nf

theorem toBitVec_ofBitVec (bit : BitVec 1) : (Sign.ofBitVec bit).toBitVec = bit := by
  revert bit
  decide

theorem ofBitVec_toBitVec (sign : Sign) : Sign.ofBitVec sign.toBitVec = sign := by
  cases sign <;> rfl

theorem packComponents_unpack (bits : BitVec 64) :
    packComponents Format.binary64 (.ofBitVec (@unpackSign Format.binary64 bits))
      (@unpackExponent Format.binary64 bits) (@unpackMantissa Format.binary64 bits) = bits := by
  apply BitVec.eq_of_toNat_eq
  rw [toNat_packComponents, toBitVec_ofBitVec, toNat_unpackSign, toNat_unpackExponent,
    toNat_unpackMantissa]
  have bound := bits.isLt
  omega

theorem Canonical.pack_eq {mantissa : ℕ} {exponent : ℤ} (canonical : Canonical mantissa exponent)
    (sign : Sign) :
    UnpackedFloat.pack Format.binary64 (.finite sign mantissa exponent canonical.positive) =
      packComponents Format.binary64 sign
        (BitVec.ofNat 11 (if 2 ^ 52 ≤ mantissa then (exponent + 1075).toNat else 0))
        (BitVec.ofNat 52 mantissa) := by
  have low := canonical.low
  have high := canonical.high
  have bias : (Format.binary64.exponentBias : ℤ) = 1023 := rfl
  have width : Format.binary64.mantissaBits = 53 := rfl
  have field : (exponent + Format.binary64.exponentBias + (52 : ℕ)).toNat =
      (exponent + 1075).toNat := by omega
  unfold UnpackedFloat.pack
  dsimp only
  rw [if_neg (by omega), field]
  by_cases full : 2 ^ 52 ≤ mantissa
  · have bits : mantissa.log2 = 52 := (Nat.log2_eq_iff canonical.positive.ne').mpr
      ⟨full, canonical.short⟩
    rw [if_pos (by omega), if_pos full]
  · have bits : mantissa.log2 < 52 :=
      (Nat.log2_lt canonical.positive.ne').mpr (Nat.lt_of_not_le full)
    rw [if_neg (by omega), if_neg full]

theorem Canonical.unpack_pack {mantissa : ℕ} {exponent : ℤ}
    (canonical : Canonical mantissa exponent) (sign : Sign) :
    UnpackedFloat.unpack Format.binary64
        (UnpackedFloat.pack Format.binary64 (.finite sign mantissa exponent canonical.positive)) =
      .finite sign mantissa exponent canonical.positive := by
  have low := canonical.low
  have high := canonical.high
  have short := canonical.short
  have bias : (Format.binary64.exponentBias : ℤ) = 1023 := rfl
  rw [canonical.pack_eq]
  simp only [UnpackedFloat.unpack, unpackExponent_packComponents, unpackMantissa_packComponents,
    unpackSign_packComponents, ofBitVec_toBitVec]
  -- A full mantissa is packed without its leading bit; any other has the least exponent.
  by_cases full : 2 ^ 52 ≤ mantissa
  · rw [if_pos full]
    generalize fieldEq : (exponent + 1075).toNat = field
    have same : (BitVec.ofNat 11 field).toNat = field := by
      rw [BitVec.toNat_ofNat, Nat.mod_eq_of_lt (by omega)]
    have notFull : BitVec.ofNat 11 field ≠ -1#11 := fun all => by
      have := congrArg BitVec.toNat all
      simp [same] at this
      omega
    have notZero : BitVec.ofNat 11 field ≠ 0#11 := fun none => by
      have := congrArg BitVec.toNat none
      simp [same] at this
      omega
    rw [if_neg notFull, if_neg notZero]
    congr 1
    · rw [append_implicit]
      omega
    · omega
  · rw [if_neg full, if_neg (by decide), if_pos rfl]
    have same : (BitVec.ofNat 52 mantissa).toNat = mantissa := by
      rw [BitVec.toNat_ofNat, Nat.mod_eq_of_lt (by omega)]
    have nonzero : BitVec.ofNat 52 mantissa ≠ 0#52 := fun none => by
      have := congrArg BitVec.toNat none
      rw [same] at this
      exact canonical.positive.ne' this
    have least : exponent = -1074 := by
      by_contra more
      exact full (canonical.full (by omega))
    rw [dif_neg nonzero]
    congr 1
    rw [least]
    rfl

theorem unpack_finite {bits : BitVec 64} {sign : Sign} {mantissa : ℕ} {exponent : ℤ}
    {positive : 0 < mantissa}
    (read : UnpackedFloat.unpack Format.binary64 bits = .finite sign mantissa exponent positive) :
    sign.toBitVec.toNat = bits.toNat / 2 ^ 63 ∧
      (bits.toNat / 2 ^ 52 % 2 ^ 11 = 0 ∧ mantissa = bits.toNat % 2 ^ 52 ∧ exponent = -1074 ∨
        0 < bits.toNat / 2 ^ 52 % 2 ^ 11 ∧ bits.toNat / 2 ^ 52 % 2 ^ 11 < 2047 ∧
          mantissa = 2 ^ 52 + bits.toNat % 2 ^ 52 ∧
          exponent = (bits.toNat / 2 ^ 52 % 2 ^ 11 : ℕ) - 1075) := by
  have field := toNat_unpackExponent bits
  have fraction := toNat_unpackMantissa bits
  rw [← toNat_unpackSign, ← field, ← fraction]
  simp only [UnpackedFloat.unpack] at read
  have bias : (Format.binary64.exponentBias : ℤ) = 1023 := rfl
  split at read
  · split at read <;> contradiction
  rename_i notFull
  split at read
  · rename_i none
    split at read
    · contradiction
    obtain ⟨rfl, rfl, rfl, _⟩ := read
    rw [toBitVec_ofBitVec, none]
    exact ⟨rfl, .inl ⟨rfl, rfl, rfl⟩⟩
  · rename_i some
    obtain ⟨rfl, rfl, rfl, _⟩ := read
    rw [toBitVec_ofBitVec]
    refine ⟨rfl, .inr ⟨?_, ?_, ?_, ?_⟩⟩
    · exact Nat.pos_of_ne_zero fun zero => some (BitVec.eq_of_toNat_eq zero)
    · have bound := (@unpackExponent Format.binary64 bits).isLt
      have all : (@unpackExponent Format.binary64 bits).toNat ≠ 2047 := fun same =>
        notFull (BitVec.eq_of_toNat_eq same)
      have width : 2 ^ Format.binary64.exponentBits = 2048 := rfl
      omega
    · rw [BitVec.toNat_append, ← Nat.shiftLeft_add_eq_or_of_lt (BitVec.isLt _)]
      rfl
    · omega

theorem canonical_of_unpack {bits : BitVec 64} {sign : Sign} {mantissa : ℕ} {exponent : ℤ}
    {positive : 0 < mantissa}
    (read : UnpackedFloat.unpack Format.binary64 bits = .finite sign mantissa exponent positive) :
    Canonical mantissa exponent := by
  obtain ⟨_, ⟨_, whole, least⟩ | ⟨_, _, whole, field⟩⟩ := unpack_finite read
  · exact ⟨positive, by omega, by omega, by omega, by omega⟩
  · exact ⟨positive, by omega, by omega, by omega, by omega⟩

theorem pack_unpack {bits : BitVec 64} {sign : Sign} {mantissa : ℕ} {exponent : ℤ}
    {positive : 0 < mantissa}
    (read : UnpackedFloat.unpack Format.binary64 bits = .finite sign mantissa exponent positive) :
    UnpackedFloat.pack Format.binary64 (.finite sign mantissa exponent positive) = bits := by
  have canonical := canonical_of_unpack read
  have bound := bits.isLt
  obtain ⟨signBit, fields⟩ := unpack_finite read
  apply BitVec.eq_of_toNat_eq
  rw [canonical.pack_eq, toNat_packComponents, BitVec.toNat_ofNat, BitVec.toNat_ofNat, signBit]
  rcases fields with ⟨field, whole, least⟩ | ⟨_, _, whole, field⟩
  · rw [if_neg (by omega)]
    omega
  · rw [if_pos (by omega)]
    omega

/-- The magnitude of a finite number as the shortest decimal is searched for. -/
theorem ofBits_of_unpack {bits : UInt64} {sign : Sign} {mantissa : ℕ} {exponent : ℤ}
    {positive : 0 < mantissa}
    (read : UnpackedFloat.unpack Format.binary64 bits.toBitVec =
      .finite sign mantissa exponent positive) :
    Binary.ofBits bits =
      { mantissa, exponent, narrowBelow := decide (mantissa = 2 ^ 52 ∧ -1074 < exponent) } := by
  obtain ⟨_, fields⟩ := unpack_finite read
  have same : bits.toBitVec.toNat = bits.toNat := rfl
  rw [same] at fields
  simp only [Binary.ofBits, Nat.pow_eq]
  rcases fields with ⟨field, whole, least⟩ | ⟨some, _, whole, field⟩
  · have narrow : ¬ (mantissa = 2 ^ 52 ∧ -1074 < exponent) := by omega
    rw [if_pos field, decide_eq_false narrow, whole, least]
  · have narrow : (decide (bits.toNat % 2 ^ 52 = 0) && decide (bits.toNat / 2 ^ 52 % 2 ^ 11 > 1)) =
        decide (mantissa = 2 ^ 52 ∧ -1074 < exponent) := by
      rw [← Bool.decide_and, decide_eq_decide]
      omega
    rw [if_neg some.ne', narrow, whole, field]

def ofParts (sign : Sign) (mantissa : ℕ) (exponent : ℤ) (positive : 0 < mantissa) : Float :=
  .ofModel (.pack (.finite sign mantissa exponent positive))

theorem unpack_ofParts {mantissa : ℕ} {exponent : ℤ} (canonical : Canonical mantissa exponent)
    (sign : Sign) :
    (ofParts sign mantissa exponent canonical.positive).toModel.unpack =
      .finite sign mantissa exponent canonical.positive :=
  canonical.unpack_pack sign

theorem eq_ofModel_pack {number : Float} {unpacked : UnpackedFloat}
    (same : UnpackedFloat.pack Format.binary64 unpacked = number.toModel.toBits.toBitVec) :
    Float.ofModel (.pack unpacked) = number := by
  obtain ⟨⟨bits, valid⟩⟩ := number
  simp only [Float.Model.pack, same]

theorem pack_unpack_zero {bits : BitVec 64} {sign : Sign}
    (read : UnpackedFloat.unpack Format.binary64 bits = .zero sign) :
    UnpackedFloat.pack Format.binary64 (.zero sign) = bits := by
  have whole := packComponents_unpack bits
  simp only [UnpackedFloat.unpack] at read
  split at read
  · split at read <;> contradiction
  split at read
  · rename_i exponent
    split at read
    · rename_i mantissa
      obtain ⟨rfl⟩ := read
      rw [exponent, mantissa] at whole
      exact whole
    · contradiction
  · contradiction

theorem ofParts_unpack {number : Float} {sign : Sign} {mantissa : ℕ} {exponent : ℤ}
    {positive : 0 < mantissa}
    (read : number.toModel.unpack = .finite sign mantissa exponent positive) :
    ofParts sign mantissa exponent positive = number :=
  eq_ofModel_pack (pack_unpack read)

theorem neg_ofParts {mantissa : ℕ} {exponent : ℤ} (canonical : Canonical mantissa exponent) :
    -ofParts .positive mantissa exponent canonical.positive =
      ofParts .negative mantissa exponent canonical.positive := by
  change Float.ofModel (.pack (ofParts .positive mantissa exponent
    canonical.positive).toModel.unpack.neg) = _
  rw [unpack_ofParts canonical]
  rfl

theorem finite_cases {number : Float} (finite : number.isFinite = true) :
    (∃ sign, number = Float.ofModel (.pack (.zero sign))) ∨
      ∃ sign mantissa exponent, ∃ canonical : Canonical mantissa exponent,
        number.toModel.unpack = .finite sign mantissa exponent canonical.positive ∧
          number = ofParts sign mantissa exponent canonical.positive := by
  have finite : number.toModel.unpack.isFinite = true := finite
  match read : number.toModel.unpack, finite with
  | .zero sign, _ => exact .inl ⟨sign, (eq_ofModel_pack (pack_unpack_zero read)).symm⟩
  | .finite sign mantissa exponent positive, _ =>
      exact .inr ⟨sign, mantissa, exponent, canonical_of_unpack read, rfl,
        (ofParts_unpack read).symm⟩

end ProtocolGate.Decimal
