import ProtocolGate.Pattern.Reading
import ProtocolGate.Unicode.Name

/-! Escapes: what a backslash and the characters after it stand for, inside a set and outside. -/

namespace ProtocolGate.Pattern

def isHexDigit (c : Char) : Bool :=
  c.isDigit || ('a' ≤ c && c ≤ 'f') || ('A' ≤ c && c ≤ 'F')

def isOctalDigit (c : Char) : Bool :=
  '0' ≤ c && c ≤ '7'

def digitValue (c : Char) : Nat :=
  if c.isDigit then c.toNat - 48
  else if 'a' ≤ c && c ≤ 'f' then c.toNat - 87
  else c.toNat - 55

def rowValue (base : Nat) (digits : Text) : Nat :=
  digits.foldl (fun value c => base * value + digitValue c) 0

def controlEscape? : Char → Option Nat
  | 'a' => some 7
  | 'b' => some 8
  | 'f' => some 12
  | 'n' => some 10
  | 'r' => some 13
  | 't' => some 9
  | 'v' => some 11
  | '\\' => some 92
  | _ => none

def kindEscape? : Char → Option Member
  | 'd' => some (.ofKind .digit true)
  | 'D' => some (.ofKind .digit false)
  | 's' => some (.ofKind .space true)
  | 'S' => some (.ofKind .space false)
  | 'w' => some (.ofKind .word true)
  | 'W' => some (.ofKind .word false)
  | _ => none

def anchorEscape? : Char → Option Anchor
  | 'A' => some .textStart
  | 'b' => some .wordEdge
  | 'B' => some .noWordEdge
  | 'Z' => some .textEnd
  | _ => none

namespace Reader

def failEscape (complaint : Text → Complaint) (escape : Text) : Reader α :=
  fail (complaint escape) escape.length

def hexEscape (mark : Char) (count : Nat) : Reader Nat := do
  let digits ← takeWhile isHexDigit count
  let escape := '\\' :: mark :: digits
  if digits.length ≠ count then
    failEscape .incompleteEscape escape
  else if 0x10FFFF < rowValue 16 digits then
    failEscape .badEscape escape
  else
    return rowValue 16 digits

def namedEscape : Reader Nat := do
  if !(← accept '\x7b') then fail .missingBrace
  let given ← name '\x7d' "character name"
  match Unicode.named? given with
  | some code => return code
  | none => fail (.undefinedCharacter given) (given.length + 4)

def octalValue (digits : Text) : Reader Nat :=
  if 0o377 < rowValue 8 digits then failEscape .octalTooLarge ('\\' :: digits)
  else return rowValue 8 digits

/-- The escapes that name a code point in the same way everywhere: by number, by name, or, for a
character that is no ASCII letter or digit, by the character itself. -/
def codeEscape (char : Char) : Reader Nat :=
  match char with
  | 'x' => hexEscape char 2
  | 'u' => hexEscape char 4
  | 'U' => hexEscape char 8
  | 'N' => namedEscape
  | _ => if char.isAlphanum then failEscape .badEscape ['\\', char] else return char.toNat

def setEscape (char : Char) : Reader Member := do
  match controlEscape? char, kindEscape? char with
  | some code, _ => return .code code
  | none, some member => return member
  | none, none =>
    if isOctalDigit char then
      let digits ← takeWhile isOctalDigit 2
      return .code (← octalValue (char :: digits))
    else
      return .code (← codeEscape char)

/-- A reference to a group, or an octal escape of three digits, that starts with a digit other than
zero. -/
def numberedEscape (char : Char) : Reader Node := do
  let second ← takeWhile Char.isDigit 1
  let third ←
    if !second.isEmpty && isOctalDigit char && second.all isOctalDigit then
      takeWhile isOctalDigit 1
    else
      pure []
  if !third.isEmpty then
    return .char (.exactly (← octalValue (char :: second ++ third)))
  else
    let digits := char :: second
    let index := rowValue 10 digits
    let reading ← get
    if reading.nextGroup ≤ index then
      fail (.invalidGroup index) digits.length
    else if (reading.closed.lookup index).isNone then
      fail .openGroup (digits.length + 1)
    else
      checkLookBehind index
      return .reference index

def nodeEscape (char : Char) : Reader Node := do
  match anchorEscape? char, kindEscape? char, controlEscape? char with
  | some place, _, _ => return .anchor place
  | none, some member, _ => return .char (.oneOf [member])
  | none, none, some code => return .char (.exactly code)
  | none, none, none =>
    if char == '0' then
      let digits ← takeWhile isOctalDigit 2
      return .char (.exactly (rowValue 8 digits))
    else if char.isDigit then
      numberedEscape char
    else
      return .char (.exactly (← codeEscape char))

end Reader

end ProtocolGate.Pattern
