import ProtocolGate.Proofs.Document.Numeral

/-!
How numbers are written. Every finite number is written as a numeral that denotes the number itself,
and no other number is written as a numeral.
-/

namespace ProtocolGate.Document.Json

open Decimal
open Float.Model.UnpackedFloat (Sign)

theorem head?_numeral {n : ℕ} (positive : 0 < n) : (numeral n).head? ≠ some '0' := by
  induction n using Nat.strongRecOn with
  | ind n ih =>
      by_cases small : n < 10
      · rw [numeral, Nat.toDigits_of_lt_base small]
        interval_cases n <;> decide
      · have split : numeral n = numeral (n / 10) ++ [(n % 10).digitChar] :=
          Nat.toDigits_of_base_le (by decide) (Nat.le_of_not_lt small)
        rw [split, List.head?_append_of_ne_nil _ (numeral_ne_nil (n / 10))]
        exact ih (n / 10) (by omega) (by omega)

theorem digitsValue_append (left right : Text) :
    digitsValue (left ++ right) = digitsValue left * 10 ^ right.length + digitsValue right := by
  have split : digitsValue (left ++ right) = Nat.ofDigitChars 10 right (digitsValue left) :=
    Nat.ofDigitChars_append 0
  rw [split, Nat.ofDigitChars_eq_ofDigitChars_zero, Nat.mul_comm]
  rfl

theorem digitsValue_zeros (count : ℕ) : digitsValue (List.replicate count '0') = 0 := by
  have value : digitsValue (List.replicate count '0') = 10 ^ count * 0 :=
    Nat.ofDigitChars_replicate_zero
  rw [value, Nat.mul_zero]

def Numeral.ofDecimal (decimal : Scaled) : Numeral :=
  let digits := numeral decimal.digits
  let leading : Int := decimal.exponent + digits.length - 1
  if -5 ≤ leading ∧ leading < 16 then
    if leading < 0 then
      { negative := false, whole := ['0']
        fraction := List.replicate (leading.natAbs - 1) '0' ++ digits }
    else if digits.length ≤ leading.toNat + 1 then
      { negative := false, fraction := ['0']
        whole := digits ++ List.replicate (leading.toNat + 1 - digits.length) '0' }
    else
      { negative := false, whole := digits.take (leading.toNat + 1)
        fraction := digits.drop (leading.toNat + 1) }
  else
    { negative := false, whole := digits.take 1, fraction := digits.drop 1
      exponent := some leading }

theorem padZeros_numeral (n : ℕ) : padZeros 1 (numeral n) = numeral n := by
  have length := List.length_pos_of_ne_nil (numeral_ne_nil n)
  rw [padZeros, Nat.sub_eq_zero_of_le length, List.replicate_zero, List.nil_append]

theorem positional_eq (digits : Text) (leading : Int) (nonempty : digits ≠ []) :
    positional digits leading =
      Numeral.written
        (if leading < 0 then
          { negative := false, whole := ['0']
            fraction := List.replicate (leading.natAbs - 1) '0' ++ digits }
        else if digits.length ≤ leading.toNat + 1 then
          { negative := false, fraction := ['0']
            whole := digits ++ List.replicate (leading.toNat + 1 - digits.length) '0' }
        else
          { negative := false, whole := digits.take (leading.toNat + 1)
            fraction := digits.drop (leading.toNat + 1) }) := by
  unfold positional
  split
  · simp [Numeral.written, nonempty]
  dsimp only
  split
  · simp [Numeral.written]
  · rename_i long
    have behind : digits.drop (leading.toNat + 1) ≠ [] := by
      rw [ne_eq, List.drop_eq_nil_iff]
      exact long
    simp [Numeral.written, behind]

theorem scientific_eq {digits : Text} (leading : Int) (nonempty : digits ≠ []) :
    numberLayout.scientific digits leading =
      Numeral.written
        { negative := false, whole := digits.take 1, fraction := digits.drop 1
          exponent := some leading } := by
  obtain ⟨first, rest, rfl⟩ := List.exists_cons_of_ne_nil nonempty
  have scale : (if leading < 0 then ['-'] else if numberLayout.exponentPlus then ['+'] else []) ++
      padZeros numberLayout.exponentWidth (numeral leading.natAbs) = signedNumeral leading := by
    rw [signedNumeral, show numberLayout.exponentWidth = 1 from rfl, padZeros_numeral]
    split <;> rfl
  unfold Layout.scientific
  dsimp only
  rw [List.append_assoc, List.append_assoc, scale]
  cases rest <;> rfl

theorem place_eq (decimal : Scaled) :
    numberLayout.place decimal = (Numeral.ofDecimal decimal).written := by
  have nonempty := numeral_ne_nil decimal.digits
  unfold Layout.place Numeral.ofDecimal
  dsimp only
  rw [positional_eq _ _ nonempty, scientific_eq _ nonempty, ← apply_ite]
  rfl

theorem Numeral.Valid.of_head {number : Numeral} {digits : Text} (nonempty : digits ≠ [])
    (unpadded : digits.head? ≠ some '0') (first : number.whole.head? = digits.head?)
    (wholeDigits : ∀ c ∈ number.whole, c.isDigit = true)
    (fractionDigits : ∀ c ∈ number.fraction, c.isDigit = true) : number.Valid := by
  refine ⟨?_, ?_, wholeDigits, fractionDigits⟩
  · intro empty
    rw [empty, List.head?_nil, eq_comm, List.head?_eq_none_iff] at first
    exact nonempty first
  · intro zero
    rw [first] at zero
    exact absurd zero unpadded

theorem isDigit_zeros (count : ℕ) : ∀ c ∈ List.replicate count '0', c.isDigit = true := by
  intro c member
  rw [List.eq_of_mem_replicate member]
  rfl

theorem ofDecimal_valid {decimal : Scaled} (positive : 0 < decimal.digits) :
    (Numeral.ofDecimal decimal).Valid := by
  have nonempty := numeral_ne_nil decimal.digits
  have digits := @isDigit_numeral decimal.digits
  have unpadded := head?_numeral positive
  have taken (count : ℕ) : ∀ c ∈ (numeral decimal.digits).take count, c.isDigit = true :=
    fun c member => digits c (List.mem_of_mem_take member)
  have dropped (count : ℕ) : ∀ c ∈ (numeral decimal.digits).drop count, c.isDigit = true :=
    fun c member => digits c (List.mem_of_mem_drop member)
  unfold Numeral.ofDecimal
  dsimp only
  split
  · split
    · refine ⟨List.cons_ne_nil _ _, fun _ => rfl, isDigit_zeros 1, ?_⟩
      exact List.forall_mem_append.mpr ⟨isDigit_zeros _, digits⟩
    · split
      · refine .of_head nonempty unpadded ?_ ?_ (isDigit_zeros 1)
        · exact List.head?_append_of_ne_nil _ nonempty
        · exact List.forall_mem_append.mpr ⟨digits, isDigit_zeros _⟩
      · exact .of_head nonempty unpadded (List.head?_take ..) (taken _) (dropped _)
  · exact .of_head nonempty unpadded (List.head?_take ..) (taken 1) (dropped 1)

theorem ofDecimal_scaled (decimal : Scaled) :
    (Numeral.ofDecimal decimal).scaled.value = decimal.value := by
  have length := List.length_pos_of_ne_nil (numeral_ne_nil decimal.digits)
  have value := digitsValue_numeral decimal.digits
  unfold Numeral.ofDecimal
  dsimp only
  generalize numeral decimal.digits = digits at length value ⊢
  -- In three of the four forms the digits are those of the decimal, with zeros in front at most.
  have same {number : Numeral} (count : ℕ)
      (all : number.whole ++ number.fraction = List.replicate count '0' ++ digits)
      (scale : number.exponent.getD 0 - number.fraction.length = decimal.exponent) :
      number.scaled.value = decimal.value := by
    rw [Scaled.value, Numeral.scaled, all, digitsValue_append, digitsValue_zeros, value, scale,
      Scaled.value, Nat.zero_mul, Nat.zero_add]
  split
  · split
    · refine same (decimal.exponent + digits.length - 1).natAbs ?_ ?_
      · have count : (decimal.exponent + digits.length - 1).natAbs =
            (decimal.exponent + digits.length - 1).natAbs - 1 + 1 := by omega
        rw [count]
        rfl
      · simp only [Option.getD_none, List.length_append, List.length_replicate]
        omega
    · split
      · have zeros (count : ℕ) : digits ++ List.replicate count '0' ++ ['0'] =
            digits ++ List.replicate (count + 1) '0' := by
          rw [List.append_assoc, List.replicate_succ']
        have scale : decimal.exponent =
            ((decimal.exponent + digits.length - 1).toNat + 1 - digits.length : ℕ) := by omega
        generalize (decimal.exponent + digits.length - 1).toNat + 1 - digits.length = count
          at scale ⊢
        rw [Scaled.value, Numeral.scaled, zeros, digitsValue_append, digitsValue_zeros, value,
          List.length_replicate, Scaled.value, scale]
        have tenth : (0 : ℤ) - (['0'].length : ℕ) = -1 := rfl
        rw [Option.getD_none, tenth, zpow_neg_one, zpow_natCast, pow_succ]
        push_cast
        field_simp
        rw [add_zero]
      · refine same 0 (List.take_append_drop _ _) ?_
        simp only [Option.getD_none, List.length_drop]
        omega
  · refine same 0 (List.take_append_drop _ _) ?_
    simp only [Option.getD_some, List.length_drop]
    omega

def Numeral.number (number : Numeral) : Float :=
  let magnitude := scaledFloat number.scaled.digits number.scaled.exponent
  if number.negative then -magnitude else magnitude

def Numeral.isDecimal (number : Numeral) : Bool :=
  number.fraction != [] || number.exponent.isSome

theorem ofDecimal_isDecimal (decimal : Scaled) : (Numeral.ofDecimal decimal).isDecimal = true := by
  have nonempty := numeral_ne_nil decimal.digits
  unfold Numeral.ofDecimal Numeral.isDecimal
  dsimp only
  split
  · split
    · simp [nonempty]
    · split
      · rfl
      · simp
        omega
  · simp

theorem ofDecimal_negative (decimal : Scaled) :
    (Numeral.ofDecimal decimal).negative = false := by
  unfold Numeral.ofDecimal
  dsimp only
  split
  · split
    · rfl
    · split <;> rfl
  · rfl

def Numeral.ofSigned (negative : Bool) (decimal : Scaled) : Numeral :=
  { Numeral.ofDecimal decimal with negative }

theorem ofSigned_written (negative : Bool) (decimal : Scaled) :
    (Numeral.ofSigned negative decimal).written =
      if negative then '-' :: (Numeral.ofDecimal decimal).written
      else (Numeral.ofDecimal decimal).written := by
  have unsigned := ofDecimal_negative decimal
  simp only [Numeral.written, Numeral.ofSigned, unsigned]
  cases negative <;> rfl

theorem render_zero (sign : Sign) :
    numberLayout.render (.ofModel (.pack (.zero sign))) =
      Numeral.written { negative := sign == .negative, whole := ['0'], fraction := ['0'] } := by
  cases sign <;> decide +kernel

theorem render_ofParts {mantissa : ℕ} {exponent : ℤ} (canonical : Canonical mantissa exponent)
    (sign : Sign) :
    numberLayout.render (ofParts sign mantissa exponent canonical.positive) =
      (Numeral.ofSigned (sign == .negative)
        (Binary.of mantissa exponent).shortest).written := by
  have read := unpack_ofParts canonical sign
  generalize ofParts sign mantissa exponent canonical.positive = number at read
  obtain ⟨signBit, _⟩ := unpack_finite read
  have bits : number.toModel.toBits.toBitVec.toNat = number.toBits.toNat := rfl
  have bound : number.toBits.toNat < 2 ^ 64 := number.toBits.toNat_lt
  have negative : number.toBits.toNat ≥ Nat.pow 2 63 ↔ (sign == .negative) = true := by
    rw [bits] at signBit
    rw [Nat.pow_eq]
    cases sign with
    | negative =>
        have high : number.toBits.toNat / 2 ^ 63 = 1 := signBit.symm
        exact iff_of_true (by omega) rfl
    | positive =>
        have low : number.toBits.toNat / 2 ^ 63 = 0 := signBit.symm
        exact iff_of_false (by omega) (by decide)
  have isNumber : number.isNaN = false := by
    change number.toModel.unpack.isNaN = false
    rw [read]
    rfl
  have isFinite : number.isInf = false := by
    change number.toModel.unpack.isInf = false
    rw [read]
    rfl
  have magnitude : Binary.ofBits number.toBits = Binary.of mantissa exponent :=
    ofBits_of_unpack read
  have nonzero : ¬ (Binary.of mantissa exponent).mantissa = 0 := canonical.positive.ne'
  rw [ofSigned_written, ← place_eq]
  simp only [Layout.render, isNumber, isFinite, magnitude, nonzero, Bool.false_eq_true, if_false]
  exact if_congr negative rfl rfl

theorem positive_of_roundsTo {mantissa : ℕ} {exponent : ℤ} {decimal : Scaled}
    (canonical : Canonical mantissa exponent)
    (rounds : RoundsTo decimal.value mantissa exponent) : 0 < decimal.digits := by
  refine Nat.pos_of_ne_zero fun none => ?_
  have small := (rounds.range canonical).1
  rw [Scaled.value, none, Nat.cast_zero, zero_mul] at small
  exact absurd small (not_le.mpr (by positivity))

/-- Every finite number is written as a numeral that denotes it. -/
theorem exists_numeral {number : Float} (finite : number.isFinite = true) :
    ∃ numeral : Numeral, numeral.Valid ∧ numeral.isDecimal = true ∧
      numberLayout.render number = numeral.written ∧ numeral.number = number := by
  rcases finite_cases finite with
    ⟨sign, rfl⟩ | ⟨sign, mantissa, exponent, canonical, read, rfl⟩
  · refine ⟨_, ⟨List.cons_ne_nil _ _, fun _ => rfl, isDigit_zeros 1, isDigit_zeros 1⟩, rfl,
      render_zero sign, ?_⟩
    cases sign <;> rfl
  · have rounds := shortest_roundsTo canonical
    have positive := positive_of_roundsTo canonical rounds
    have valid := ofDecimal_valid positive
    rw [← ofDecimal_scaled] at rounds
    have magnitude := scaledFloat_eq canonical (positive_of_roundsTo canonical rounds) rounds
    refine ⟨.ofSigned (sign == .negative) (Binary.of mantissa exponent).shortest,
      ⟨valid.nonempty, valid.leading, valid.wholeDigits, valid.fractionDigits⟩,
      ofDecimal_isDecimal _, render_ofParts canonical sign, ?_⟩
    have same (negative : Bool) : (Numeral.ofSigned negative
        (Binary.of mantissa exponent).shortest).number =
          if negative then -ofParts .positive mantissa exponent canonical.positive
          else ofParts .positive mantissa exponent canonical.positive := by
      rw [← magnitude]
      rfl
    rw [same]
    cases sign with
    | negative => exact neg_ofParts canonical
    | positive => rfl

theorem render_infinite {number : Float} (infinite : number.isFinite = false) :
    numberLayout.render number = "null".toList := by
  have infinite : number.toModel.unpack.isFinite = false := infinite
  have isNaN : number.isNaN = number.toModel.unpack.isNaN := rfl
  have isInf : number.isInf = number.toModel.unpack.isInf := rfl
  unfold Layout.render
  rw [isNaN, isInf]
  match number.toModel.unpack, infinite with
  | .notANumber, _ => rfl
  | .infinity _, _ =>
      simp only [Float.Model.UnpackedFloat.isNaN, Float.Model.UnpackedFloat.isInf,
        Bool.false_eq_true, if_false, if_true]
      split <;> rfl

end ProtocolGate.Document.Json
