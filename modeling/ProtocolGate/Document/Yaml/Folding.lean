import ProtocolGate.Document.Yaml.Style

/-!
Texts in YAML, from a column of a line on. Long lines are folded where a reader puts the space back:
in plain and single quoted texts at a lone space, in double quoted ones after a backslash.
-/

namespace ProtocolGate.Document.Yaml

def lineWidth : Nat := 80

def isLoneSpace (previous : Option Char) (c : Char) (rest : Text) : Bool :=
  c == ' ' && previous != some ' ' && rest.head? != some ' '

def foldPlain (indent column : Nat) (previous : Option Char) : Text → Text
  | [] => []
  | c :: rest =>
    if isLoneSpace previous c rest && lineWidth < column then
      newLine indent ++ foldPlain indent indent (some c) rest
    else
      c :: foldPlain indent (column + 1) (some c) rest

/-- The inside of single quotes. A quote is written twice; a run of line feeds has one more than it
stands for, and every run of line breaks is followed by the indentation of the next line. -/
def foldSingle (indent column : Nat) (previous : Option Char) : Text → Text
  | [] => []
  | c :: rest =>
    if c == '\'' then
      '\'' :: '\'' :: foldSingle indent (column + 2) (some c) rest
    else if isBreak c then
      let extra := if c == '\n' && !previous.any isBreak then ['\n'] else []
      let margin := if rest.head?.any isBreak then [] else spaces indent
      extra ++ c :: margin ++ foldSingle indent indent (some c) rest
    else if isLoneSpace previous c rest && lineWidth < column && previous.isSome &&
        !rest.isEmpty then
      newLine indent ++ foldSingle indent indent (some c) rest
    else
      c :: foldSingle indent (column + 1) (some c) rest

def isBareInDouble (c : Char) : Bool :=
  c != '"' && c != '\\' && !isBreak c && isVerbatim c && c.toNat ≤ 0xFFFD

def escape (c : Char) : Text :=
  match c with
  | '\x00' => ['\\', '0']
  | '\x07' => ['\\', 'a']
  | '\x08' => ['\\', 'b']
  | '\t' => ['\\', 't']
  | '\n' => ['\\', 'n']
  | '\x0b' => ['\\', 'v']
  | '\x0c' => ['\\', 'f']
  | '\r' => ['\\', 'r']
  | '\x1b' => ['\\', 'e']
  | '"' => ['\\', '"']
  | '\\' => ['\\', '\\']
  | '\x85' => ['\\', 'N']
  | '\u2028' => ['\\', 'L']
  | '\u2029' => ['\\', 'P']
  | c =>
    if c.toNat ≤ 0xFF then '\\' :: 'x' :: upperHexNumeral 2 c.toNat
    else if c.toNat ≤ 0xFFFF then '\\' :: 'u' :: upperHexNumeral 4 c.toNat
    else '\\' :: 'U' :: upperHexNumeral 8 c.toNat

def continuation (indent : Nat) (spaceNext : Bool) : Text :=
  '\\' :: newLine indent ++ if spaceNext then ['\\'] else []

def continuedColumn (indent : Nat) (spaceNext : Bool) : Nat :=
  if spaceNext then indent + 1 else indent

/-- The inside of double quotes. A line can be folded before a space, before a character that
follows an escape, and after an escape; never at the first or the last character. -/
def foldDouble (indent column : Nat) (first afterEscape : Bool) : Text → Text
  | [] => []
  | c :: rest =>
    let inside := !first && !rest.isEmpty
    if isBareInDouble c then
      if inside && (c == ' ' || afterEscape) && lineWidth < column then
        continuation indent (c == ' ') ++
          c :: foldDouble indent (continuedColumn indent (c == ' ') + 1) false false rest
      else
        c :: foldDouble indent (column + 1) false false rest
    else
      let column := column + (escape c).length
      let spaceNext := rest.head? == some ' '
      if inside && lineWidth + 1 < column then
        escape c ++ (continuation indent spaceNext ++
          foldDouble indent (continuedColumn indent spaceNext) false true rest)
      else
        escape c ++ foldDouble indent column false true rest

def writeText (indent column : Nat) (text : Text) : Text :=
  match styleOf text with
  | .plain => foldPlain indent column none text
  | .single => '\'' :: foldSingle indent (column + 1) none text ++ ['\'']
  | .double => '"' :: foldDouble indent (column + 1) true true text ++ ['"']

end ProtocolGate.Document.Yaml
