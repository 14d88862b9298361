import ProtocolGate.Text

/-! Reading of a floating-point number from its text. -/

namespace ProtocolGate.Decimal

def digitsValue (digits : Text) : Nat :=
  digits.foldl (fun value c => 10 * value + (c.toNat - '0'.toNat)) 0

def readSigned? (text : Text) : Option Int :=
  let unsigned? := fun (digits : Text) =>
    if digits ≠ [] ∧ digits.all Char.isDigit then some (digitsValue digits) else none
  match text with
  | '-' :: digits => (unsigned? digits).map fun value => -(value : Int)
  | '+' :: digits => (unsigned? digits).map fun value => (value : Int)
  | digits => (unsigned? digits).map fun value => (value : Int)

def scaledFloat (digits : Nat) (exponent : Int) : Float :=
  if exponent < 0 then Float.ofScientific digits true exponent.natAbs
  else Float.ofScientific digits false exponent.toNat

def readMagnitude? (text : Text) : Option Float := do
  let whole := text.takeWhile Char.isDigit
  let afterWhole := text.dropWhile Char.isDigit
  let (fraction, tail) := match afterWhole with
    | '.' :: rest => (rest.takeWhile Char.isDigit, rest.dropWhile Char.isDigit)
    | rest => ([], rest)
  guard (whole ++ fraction ≠ [])
  let exponent ← match tail with
    | [] => some 0
    | mark :: rest => if mark == 'e' || mark == 'E' then readSigned? rest else none
  pure (scaledFloat (digitsValue (whole ++ fraction)) (exponent - fraction.length))

/-- Reads a number: a numeral, an infinity or `nan`, with an optional sign. -/
def read? (text : Text) : Option Float :=
  let unsigned? := fun (body : Text) =>
    if body = "inf".toList then some (1.0 / 0.0)
    else if body = "nan".toList then some (0.0 / 0.0)
    else readMagnitude? body
  match text with
  | '-' :: body => (unsigned? body).map fun magnitude => -magnitude
  | '+' :: body => unsigned? body
  | body => unsigned? body

def ofInt (n : Int) : Float :=
  if n < 0 then -(Float.ofScientific n.natAbs false 0) else Float.ofScientific n.natAbs false 0

/-- The floating-point number nearest to an integer, if the integer is in their range. -/
def ofInt? (n : Int) : Option Float :=
  if (ofInt n).isFinite then some (ofInt n) else none

end ProtocolGate.Decimal
