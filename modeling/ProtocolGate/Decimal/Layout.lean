import ProtocolGate.Decimal.Shortest
import ProtocolGate.Text

/-!
How a floating-point number is laid out as text: its shortest digits, placed by one record of the
format's decisions.
-/

namespace ProtocolGate.Decimal

structure Layout where
  /-- The least exponent of the leading digit that is written positionally. -/
  plainFrom : Int
  /-- The least exponent of the leading digit that is written scientifically again. -/
  plainBelow : Int
  scientificPoint : Bool
  exponentPlus : Bool
  exponentWidth : Nat
  infinity : String
  negativeInfinity : String
  notANumber : String

def Layout.scientific (layout : Layout) (digits : Text) (leading : Int) : Text :=
  let mantissa := match digits with
    | first :: [] => if layout.scientificPoint then [first, '.', '0'] else [first]
    | first :: rest => first :: '.' :: rest
    | [] => []
  let sign := if leading < 0 then ['-'] else if layout.exponentPlus then ['+'] else []
  mantissa ++ ['e'] ++ sign ++ padZeros layout.exponentWidth (numeral leading.natAbs)

def positional (digits : Text) (leading : Int) : Text :=
  if leading < 0 then
    '0' :: '.' :: (List.replicate (leading.natAbs - 1) '0' ++ digits)
  else
    let whole := leading.toNat + 1
    if digits.length ≤ whole then
      digits ++ List.replicate (whole - digits.length) '0' ++ ['.', '0']
    else
      digits.take whole ++ '.' :: digits.drop whole

def Layout.place (layout : Layout) (decimal : Scaled) : Text :=
  let digits := numeral decimal.digits
  let leading : Int := decimal.exponent + digits.length - 1
  if layout.plainFrom ≤ leading ∧ leading < layout.plainBelow then
    positional digits leading
  else
    layout.scientific digits leading

def Layout.render (layout : Layout) (number : Float) : Text :=
  let bits := number.toBits
  let negative := bits.toNat ≥ Nat.pow 2 63
  if number.isNaN then layout.notANumber.toList
  else if number.isInf then
    (if negative then layout.negativeInfinity else layout.infinity).toList
  else
    let magnitude := Binary.ofBits bits
    let body :=
      if magnitude.mantissa = 0 then ['0', '.', '0'] else layout.place magnitude.shortest
    if negative then '-' :: body else body

def plainLayout : Layout where
  plainFrom := -4
  plainBelow := 16
  scientificPoint := false
  exponentPlus := true
  exponentWidth := 2
  infinity := "inf"
  negativeInfinity := "-inf"
  notANumber := "nan"

end ProtocolGate.Decimal
