import ProtocolGate.Decimal.Layout

/-!
Documents: ordered trees of named values, and their text as JSON. Every item and every field stands
on a line of its own, two spaces deeper than what holds it. A number that is not finite has no
numeral and is written as `null`.
-/

namespace ProtocolGate

inductive Document where
  | truth (value : Bool)
  | int (value : Int)
  | float (value : Float)
  | text (value : Text)
  | list (items : List Document)
  | object (fields : List (Text × Document))

namespace Document

def word (value : String) : Document :=
  .text value.toList

def spaces (count : Nat) : Text :=
  List.replicate count ' '

def newLine (indent : Nat) : Text :=
  '\n' :: spaces indent

end Document

end ProtocolGate

namespace ProtocolGate.Document.Json

/-- Numbers are positional from five places behind the point on up to sixteen digits before it. -/
def numberLayout : Decimal.Layout where
  plainFrom := -5
  plainBelow := 16
  scientificPoint := false
  exponentPlus := false
  exponentWidth := 1
  infinity := "null"
  negativeInfinity := "null"
  notANumber := "null"

def escape (c : Char) : Text :=
  match c with
  | '"' => ['\\', '"']
  | '\\' => ['\\', '\\']
  | '\x08' => ['\\', 'b']
  | '\t' => ['\\', 't']
  | '\n' => ['\\', 'n']
  | '\x0c' => ['\\', 'f']
  | '\r' => ['\\', 'r']
  | c => if c.toNat < 0x20 then '\\' :: 'u' :: hexNumeral 4 c.toNat else [c]

def string (text : Text) : Text :=
  '"' :: text.flatMap escape ++ ['"']

mutual

/-- A document whose first line is already indented by `indent`. -/
def write (indent : Nat) : Document → Text
  | .truth value => (if value then "true" else "false").toList
  | .int value => signedNumeral value
  | .float value => numberLayout.render value
  | .text value => string value
  | .list [] => ['[', ']']
  | .list (item :: rest) =>
    '[' :: newLine (indent + 2) ++ write (indent + 2) item ++ writeItems (indent + 2) rest ++
      newLine indent ++ [']']
  | .object [] => ['\x7b', '\x7d']
  | .object ((name, value) :: rest) =>
    '\x7b' :: newLine (indent + 2) ++ string name ++ [':', ' '] ++ write (indent + 2) value ++
      writeFields (indent + 2) rest ++ newLine indent ++ ['\x7d']

def writeItems (indent : Nat) : List Document → Text
  | [] => []
  | item :: rest => ',' :: newLine indent ++ write indent item ++ writeItems indent rest

def writeFields (indent : Nat) : List (Text × Document) → Text
  | [] => []
  | (name, value) :: rest =>
    ',' :: newLine indent ++ string name ++ [':', ' '] ++ write indent value ++
      writeFields indent rest

end

def render (document : Document) : Text :=
  write 0 document

end ProtocolGate.Document.Json
