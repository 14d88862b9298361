import ProtocolGate.Text
import ProtocolGate.Unicode.Printable

/-!
Quoted texts, as messages show them: in single quotes, or in double quotes where the text holds a
single quote and no double one. The backslash, the quote in use, line feed, carriage return and tab
have short escapes; other characters that do not print are written by their code.
-/

namespace ProtocolGate.Text

def quoteFor (text : List Char) : Char :=
  if text.contains '\'' && !text.contains '"' then '"' else '\''

/-- The numeric escape of a code point, in the shortest of the three forms. -/
def codeEscape (code : Nat) : List Char :=
  if code < 0x100 then '\\' :: 'x' :: hexNumeral 2 code
  else if code < 0x10000 then '\\' :: 'u' :: hexNumeral 4 code
  else '\\' :: 'U' :: hexNumeral 8 code

def quotedChar (quote c : Char) : List Char :=
  if c == '\\' then ['\\', '\\']
  else if c == quote then ['\\', c]
  else if c == '\n' then ['\\', 'n']
  else if c == '\r' then ['\\', 'r']
  else if c == '\t' then ['\\', 't']
  else if Unicode.isPrintable c.toNat then [c]
  else codeEscape c.toNat

def quoted (text : List Char) : List Char :=
  let quote := quoteFor text
  quote :: text.flatMap (quotedChar quote) ++ [quote]

def quotedByte (quote : Char) (byte : UInt8) : List Char :=
  let c := Char.ofNat byte.toNat
  if 0x20 ≤ byte.toNat ∧ byte.toNat < 0x7F then
    if c == '\\' || c == quote then ['\\', c] else [c]
  else if c == '\n' then ['\\', 'n']
  else if c == '\r' then ['\\', 'r']
  else if c == '\t' then ['\\', 't']
  else codeEscape byte.toNat

def quotedBytes (bytes : List UInt8) : List Char :=
  let quote := quoteFor (bytes.map fun byte => Char.ofNat byte.toNat)
  'b' :: quote :: bytes.flatMap (quotedByte quote) ++ [quote]

end ProtocolGate.Text
