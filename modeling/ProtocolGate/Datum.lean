import ProtocolGate.Decimal.Layout
import ProtocolGate.Decimal.Reader
import ProtocolGate.Text.Quoted

/-! Values whose kind only their receiver checks: arguments from outside, and details of faults. -/

namespace ProtocolGate

inductive Datum where
  | nothing
  | truth (value : Bool)
  | int (value : Int)
  | float (value : Float)
  | text (value : Text)
  | bytes (value : List UInt8)
  | byteBuffer (value : List UInt8)
  | list (items : List Datum)
  | record (fields : List (Text × Datum))
deriving Inhabited

namespace Datum

def kindName : Datum → String
  | nothing => "NoneType"
  | truth _ => "bool"
  | int _ => "int"
  | float _ => "float"
  | text _ => "str"
  | bytes _ => "bytes"
  | byteBuffer _ => "bytearray"
  | list _ => "list"
  | record _ => "dict"

mutual

def shown : Datum → Text
  | nothing => "None".toList
  | truth value => (if value then "True" else "False").toList
  | int value => signedNumeral value
  | float value => Decimal.plainLayout.render value
  | text value => Text.quoted value
  | bytes value => Text.quotedBytes value
  | byteBuffer value => "bytearray(".toList ++ Text.quotedBytes value ++ [')']
  | list items => '[' :: shownItems items ++ [']']
  | record fields => '\x7b' :: shownFields fields ++ ['\x7d']

def shownItems : List Datum → Text
  | [] => []
  | [item] => item.shown
  | item :: rest => item.shown ++ [',', ' '] ++ shownItems rest

def shownFields : List (Text × Datum) → Text
  | [] => []
  | [(name, value)] => Text.quoted name ++ [':', ' '] ++ value.shown
  | (name, value) :: rest =>
    Text.quoted name ++ [':', ' '] ++ value.shown ++ [',', ' '] ++ shownFields rest

end

/-- A value as a text: a text is itself, anything else as messages show it. -/
def asText : Datum → Text
  | text value => value
  | other => other.shown

end Datum

inductive Amount where
  | whole (value : Int)
  | float (value : Float)

namespace Amount

/-- The floating-point number that stands for an amount; none stands for a whole number beyond their
range. -/
def toFloat? : Amount → Option Float
  | whole value => Decimal.ofInt? value
  | float value => some value

def isNegative : Amount → Bool
  | whole value => value < 0
  | float value => value < 0

def toDatum : Amount → Datum
  | whole value => .int value
  | float value => .float value

end Amount

end ProtocolGate
