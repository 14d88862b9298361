import ProtocolGate.Decimal.Layout
import ProtocolGate.Document.Yaml.Folding

/-!
Documents as YAML in block style. Fields of an object stand below each other; the items of a list
stand below the name of the list, each after a dash, with the rest of an item two columns deeper.
-/

namespace ProtocolGate.Document.Yaml

def numberLayout : Decimal.Layout where
  plainFrom := -4
  plainBelow := 16
  scientificPoint := true
  exponentPlus := true
  exponentWidth := 2
  infinity := ".inf"
  negativeInfinity := "-.inf"
  notANumber := ".nan"

def gapBefore (indent : Nat) : Document → Text
  | .list (_ :: _) => newLine indent
  | .object (_ :: _) => newLine (indent + 2)
  | _ => [' ']

/-- The indentation of the value of a field; a list stands as deep as its name. -/
def indentOf (indent : Nat) : Document → Nat
  | .list (_ :: _) => indent
  | _ => indent + 2

mutual

/-- A document in place: it starts at `column` of the current line, and further lines of it are
indented by `indent`. -/
def write (indent column : Nat) : Document → Text
  | .truth value => (if value then "true" else "false").toList
  | .int value => signedNumeral value
  | .float value => numberLayout.render value
  | .text value => writeText indent column value
  | .list [] => ['[', ']']
  | .list (item :: rest) =>
    '-' :: ' ' :: write (indent + 2) (indent + 2) item ++ writeItems indent rest
  | .object [] => ['\x7b', '\x7d']
  | .object ((name, value) :: rest) =>
    name ++ ':' :: gapBefore indent value ++
      write (indentOf indent value) (indent + name.length + 2) value ++ writeFields indent rest

def writeItems (indent : Nat) : List Document → Text
  | [] => []
  | item :: rest =>
    newLine indent ++ '-' :: ' ' :: write (indent + 2) (indent + 2) item ++ writeItems indent rest

def writeFields (indent : Nat) : List (Text × Document) → Text
  | [] => []
  | (name, value) :: rest =>
    newLine indent ++ name ++ ':' :: gapBefore indent value ++
      write (indentOf indent value) (indent + name.length + 2) value ++ writeFields indent rest

end

def render (document : Document) : Text :=
  write 0 0 document ++ ['\n']

end ProtocolGate.Document.Yaml
