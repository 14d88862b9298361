import ProtocolGate.Document
import ProtocolGate.Proofs.Decimal.Reader
import ProtocolGate.Proofs.Decimal.Shortest

/-!
Numerals of JSON: their parts, how they are written, and how they are read from the start of a text.
-/

namespace ProtocolGate.Document.Json

open Decimal

structure Numeral where
  negative : Bool
  whole : Text
  fraction : Text := []
  exponent : Option Int := none

namespace Numeral

def written (numeral : Numeral) : Text :=
  (if numeral.negative then ['-'] else []) ++ numeral.whole ++
    (if numeral.fraction = [] then [] else '.' :: numeral.fraction) ++
    numeral.exponent.elim [] fun exponent => 'e' :: signedNumeral exponent

/-- All digits are digits, there is one before the point, and no zero stands before others there. -/
structure Valid (numeral : Numeral) : Prop where
  nonempty : numeral.whole ≠ []
  leading : numeral.whole.head? = some '0' → numeral.whole = ['0']
  wholeDigits : ∀ c ∈ numeral.whole, c.isDigit = true
  fractionDigits : ∀ c ∈ numeral.fraction, c.isDigit = true

def scaled (numeral : Numeral) : Scaled where
  digits := digitsValue (numeral.whole ++ numeral.fraction)
  exponent := numeral.exponent.getD 0 - numeral.fraction.length

end Numeral

def readDigits (text : Text) : Option (Text × Text) :=
  let digits := text.takeWhile Char.isDigit
  if digits = [] then none else some (digits, text.dropWhile Char.isDigit)

def readFraction : Text → Option (Text × Text)
  | '.' :: rest => readDigits rest
  | rest => some ([], rest)

def readSigned : Text → Option (Int × Text)
  | '-' :: rest => (readDigits rest).map fun (digits, rest) => (-(digitsValue digits : Int), rest)
  | '+' :: rest => (readDigits rest).map fun (digits, rest) => ((digitsValue digits : Int), rest)
  | rest => (readDigits rest).map fun (digits, rest) => ((digitsValue digits : Int), rest)

def readExponent : Text → Option (Option Int × Text)
  | [] => some (none, [])
  | c :: rest =>
    if c = 'e' ∨ c = 'E' then
      (readSigned rest).map fun (exponent, rest) => (some exponent, rest)
    else
      some (none, c :: rest)

def readSign : Text → Bool × Text
  | '-' :: rest => (true, rest)
  | rest => (false, rest)

def readWhole (text : Text) : Option (Text × Text) :=
  (readDigits text).filter fun (digits, _) => digits.head? != some '0' || digits == ['0']

def readNumeral (text : Text) : Option (Numeral × Text) := do
  let (negative, text) := readSign text
  let (whole, text) ← readWhole text
  let (fraction, text) ← readFraction text
  let (exponent, text) ← readExponent text
  return ({ negative, whole, fraction, exponent }, text)

/-- A text does not go on with a numeral that stands before it. -/
def Stops (rest : Text) : Prop :=
  ∀ c ∈ rest.head?, c.isDigit = false ∧ c ≠ '.' ∧ c ≠ 'e' ∧ c ≠ 'E'

theorem takeWhile_digits {digits rest : Text} (all : ∀ c ∈ digits, c.isDigit = true)
    (stops : ∀ c ∈ rest.head?, c.isDigit = false) :
    (digits ++ rest).takeWhile Char.isDigit = digits ∧
      (digits ++ rest).dropWhile Char.isDigit = rest := by
  rw [List.takeWhile_append_of_pos all, List.dropWhile_append_of_pos all]
  cases rest with
  | nil => simp
  | cons c rest =>
      have stop := stops c rfl
      simp [stop]

theorem readDigits_append {digits rest : Text} (nonempty : digits ≠ [])
    (all : ∀ c ∈ digits, c.isDigit = true) (stops : ∀ c ∈ rest.head?, c.isDigit = false) :
    readDigits (digits ++ rest) = some (digits, rest) := by
  obtain ⟨taken, left⟩ := takeWhile_digits all stops
  simp only [readDigits, taken, left, if_neg nonempty]

theorem digitsValue_numeral (n : ℕ) : digitsValue (numeral n) = n :=
  Nat.ofDigitChars_ten_toDigits

theorem isDigit_numeral {n : ℕ} : ∀ c ∈ numeral n, c.isDigit = true :=
  fun _ member => Nat.isDigit_of_mem_toDigits (by decide) (by decide) member

theorem numeral_ne_nil (n : ℕ) : numeral n ≠ [] :=
  List.ne_nil_of_length_pos Nat.length_toDigits_pos

theorem head?_of_digits {digits rest : Text} (nonempty : digits ≠ [])
    (all : ∀ c ∈ digits, c.isDigit = true) :
    ∃ c tail, digits ++ rest = c :: tail ∧ c.isDigit = true := by
  obtain ⟨c, others, rfl⟩ := List.exists_cons_of_ne_nil nonempty
  exact ⟨c, others ++ rest, rfl, all c List.mem_cons_self⟩

theorem readSigned_digit {c : Char} {rest : Text} (digit : c.isDigit = true) :
    readSigned (c :: rest) =
      (readDigits (c :: rest)).map fun (digits, rest) => ((digitsValue digits : Int), rest) := by
  unfold readSigned
  split
  · rename_i same
    obtain ⟨rfl, _⟩ := List.cons.inj same
    contradiction
  · rename_i same
    obtain ⟨rfl, _⟩ := List.cons.inj same
    contradiction
  · rfl

theorem readSigned_append (exponent : Int) {rest : Text}
    (stops : ∀ c ∈ rest.head?, c.isDigit = false) :
    readSigned (signedNumeral exponent ++ rest) = some (exponent, rest) := by
  have read := readDigits_append (numeral_ne_nil exponent.natAbs) isDigit_numeral stops
  have value := digitsValue_numeral exponent.natAbs
  unfold signedNumeral
  split
  · rw [List.cons_append, readSigned, read, Option.map_some]
    dsimp only
    rw [value]
    congr 2
    omega
  · obtain ⟨c, tail, shape, digit⟩ :=
      @head?_of_digits _ rest (numeral_ne_nil exponent.natAbs) isDigit_numeral
    rw [shape, readSigned_digit digit, ← shape, read, Option.map_some]
    dsimp only
    rw [value]
    congr 2
    omega

theorem readSign_append {negative : Bool} {text : Text} (unsigned : text.head? ≠ some '-') :
    readSign ((if negative then ['-'] else []) ++ text) = (negative, text) := by
  cases negative with
  | true => rfl
  | false =>
      simp only [Bool.false_eq_true, if_false, List.nil_append]
      unfold readSign
      split
      · exact absurd rfl unsigned
      · rfl

theorem readFraction_append {fraction rest : Text} (digits : ∀ c ∈ fraction, c.isDigit = true)
    (stops : ∀ c ∈ rest.head?, c.isDigit = false) (pointless : rest.head? ≠ some '.') :
    readFraction ((if fraction = [] then [] else '.' :: fraction) ++ rest) =
      some (fraction, rest) := by
  by_cases empty : fraction = []
  · subst empty
    rw [if_pos rfl, List.nil_append]
    unfold readFraction
    split
    · exact absurd rfl pointless
    · rfl
  · rw [if_neg empty, List.cons_append, readFraction]
    exact readDigits_append empty digits stops

theorem readExponent_append {exponent : Option Int} {rest : Text} (stops : Stops rest) :
    readExponent ((exponent.elim [] fun exponent => 'e' :: signedNumeral exponent) ++ rest) =
      some (exponent, rest) := by
  cases exponent with
  | none =>
      rw [Option.elim_none, List.nil_append]
      cases rest with
      | nil => rfl
      | cons c rest =>
          obtain ⟨_, _, small, capital⟩ := stops c rfl
          rw [readExponent, if_neg (not_or.mpr ⟨small, capital⟩)]
  | some exponent =>
      have read := readSigned_append exponent fun c first => (stops c first).1
      rw [Option.elim_some, List.cons_append, readExponent, if_pos (.inl rfl), read]
      rfl

theorem readWhole_append {number : Numeral} (valid : number.Valid) {rest : Text}
    (stops : ∀ c ∈ rest.head?, c.isDigit = false) :
    readWhole (number.whole ++ rest) = some (number.whole, rest) := by
  rw [readWhole, readDigits_append valid.nonempty valid.wholeDigits stops, Option.filter_some]
  by_cases zero : number.whole.head? = some '0'
  · simp [valid.leading zero]
  · simp [zero]

theorem readNumeral_written {number : Numeral} (valid : number.Valid) {rest : Text}
    (stops : Stops rest) : readNumeral (number.written ++ rest) = some (number, rest) := by
  -- What stands behind the fraction, and what stands behind the digits before the point.
  generalize scale : (number.exponent.elim [] fun exponent => 'e' :: signedNumeral exponent) ++
    rest = behind
  have behindStops : ∀ c ∈ behind.head?, c.isDigit = false ∧ c ≠ '.' := by
    intro c first
    rw [← scale] at first
    cases exponent : number.exponent with
    | none =>
        rw [exponent] at first
        obtain ⟨digit, point, _⟩ := stops c first
        exact ⟨digit, point⟩
    | some value =>
        rw [exponent] at first
        obtain rfl : 'e' = c := by simpa using first
        decide
  have readBehind : readExponent behind = some (number.exponent, rest) := by
    rw [← scale]
    exact readExponent_append stops
  generalize part : (if number.fraction = [] then [] else '.' :: number.fraction) ++ behind = tail
  have tailStops : ∀ c ∈ tail.head?, c.isDigit = false := by
    intro c first
    rw [← part] at first
    by_cases empty : number.fraction = []
    · rw [if_pos empty, List.nil_append] at first
      exact (behindStops c first).1
    · rw [if_neg empty] at first
      obtain rfl : '.' = c := by simpa using first
      rfl
  have readTail : readFraction tail = some (number.fraction, behind) := by
    rw [← part]
    refine readFraction_append valid.fractionDigits (fun c first => (behindStops c first).1) ?_
    intro point
    exact (behindStops '.' point).2 rfl
  have unsigned : (number.whole ++ tail).head? ≠ some '-' := by
    obtain ⟨c, others, start, digit⟩ := @head?_of_digits _ tail valid.nonempty valid.wholeDigits
    intro minus
    rw [start] at minus
    obtain rfl : c = '-' := by simpa using minus
    contradiction
  have shape : number.written ++ rest =
      (if number.negative then ['-'] else []) ++ (number.whole ++ tail) := by
    rw [← part, ← scale]
    simp only [Numeral.written, List.append_assoc]
  rw [shape, readNumeral, readSign_append unsigned]
  simp only [readWhole_append valid tailStops, readTail, readBehind, Option.bind_eq_bind,
    Option.bind_some, Option.pure_def]

end ProtocolGate.Document.Json
