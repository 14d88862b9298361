/-!
The shortest decimal that identifies a binary floating-point number: of all decimals that round to
the number, one with the fewest digits, and of those the closest, an exact tie going to the even
digit. Everything is exact arithmetic on natural numbers.
-/

namespace ProtocolGate.Decimal

/-- A positive number `mantissa · 2 ^ exponent` with the gap to its lower neighbour. -/
structure Binary where
  mantissa : Nat
  exponent : Int
  narrowBelow : Bool

def Binary.ofBits (bits : UInt64) : Binary :=
  let biased : Nat := (bits.toNat / Nat.pow 2 52) % Nat.pow 2 11
  let fraction := bits.toNat % Nat.pow 2 52
  if biased = 0 then
    { mantissa := fraction, exponent := -1074, narrowBelow := false }
  else
    { mantissa := Nat.pow 2 52 + fraction, exponent := (biased : Int) - 1075
      narrowBelow := fraction = 0 && biased > 1 }

structure Scaled where
  digits : Nat
  exponent : Int
deriving DecidableEq

def compareScaled (digits : Nat) (tens : Int) (quarters : Nat) (twos : Int) : Ordering :=
  compare (digits * Nat.pow 10 tens.toNat * Nat.pow 2 (-twos).toNat)
    (quarters * Nat.pow 2 twos.toNat * Nat.pow 10 (-tens).toNat)

/-- A decimal rounds to the number: it lies between the midpoints to the two neighbours, which
belong to the number when its mantissa is even. -/
def Binary.roundsFrom (number : Binary) (decimal : Scaled) : Bool :=
  let low := 4 * number.mantissa - if number.narrowBelow then 1 else 2
  let high := 4 * number.mantissa + 2
  let closed := number.mantissa % 2 == 0
  let above := compareScaled decimal.digits decimal.exponent low (number.exponent - 2)
  let below := compareScaled decimal.digits decimal.exponent high (number.exponent - 2)
  (above == .gt || (closed && above == .eq)) && (below == .lt || (closed && below == .eq))

def Binary.floorOn (number : Binary) (grid : Int) : Nat :=
  (number.mantissa * Nat.pow 2 number.exponent.toNat * Nat.pow 10 (-grid).toNat) /
    (Nat.pow 10 grid.toNat * Nat.pow 2 (-number.exponent).toNat)

def Binary.roundsUpOn (number : Binary) (grid : Int) (floor : Nat) : Bool :=
  match compareScaled (2 * floor + 1) grid (2 * number.mantissa) number.exponent with
  | .lt => true
  | .eq => floor % 2 == 1
  | .gt => false

def Binary.bestOn? (number : Binary) (grid : Int) : Option Scaled :=
  let floor := number.floorOn grid
  let lower : Scaled := { digits := floor, exponent := grid }
  let upper : Scaled := { digits := floor + 1, exponent := grid }
  match number.roundsFrom lower, number.roundsFrom upper with
  | true, true => some (if number.roundsUpOn grid floor then upper else lower)
  | true, false => some lower
  | false, true => some upper
  | false, false => none

/-- Tries ever finer grids, from `10 ^ grid` downwards. -/
def Binary.search (number : Binary) : Nat → Int → Scaled
  | 0, grid => { digits := number.floorOn grid, exponent := grid }
  | tries + 1, grid =>
    match number.bestOn? grid with
    | some decimal => decimal
    | none => number.search tries (grid - 1)

def Binary.scale (number : Binary) : Int :=
  let bits : Int := number.exponent + number.mantissa.log2 + 1
  if bits ≥ 0 then bits * 30103 / 100000 + 1 else -((-bits) * 30102 / 100000) + 1

def Scaled.strip : Nat → Scaled → Scaled
  | 0, decimal => decimal
  | fuel + 1, decimal =>
    if decimal.digits ≠ 0 ∧ decimal.digits % 10 = 0 then
      Scaled.strip fuel { digits := decimal.digits / 10, exponent := decimal.exponent + 1 }
    else
      decimal

def Binary.shortest (number : Binary) : Scaled :=
  (number.search 24 number.scale).strip 400

end ProtocolGate.Decimal
