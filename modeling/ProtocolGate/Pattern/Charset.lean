import ProtocolGate.Pattern.Node
import ProtocolGate.Unicode.Case
import ProtocolGate.Unicode.Letter
import ProtocolGate.Unicode.Ranges

/-!
Tests on single characters. Without case the tested character and the characters of the rule are
compared by their lower case forms; with the whole alphabet, two lower case forms that share an
upper case form count as the same too.
-/

namespace ProtocolGate.Pattern

def asciiLowerCode (code : Nat) : Nat :=
  if 65 ≤ code ∧ code ≤ 90 then code + 32 else code

def Kind.holds (ascii : Bool) (code : Nat) : Kind → Bool
  | .digit => if ascii then 48 ≤ code && code ≤ 57 else Unicode.isDecimal code
  | .space =>
    if ascii then (9 ≤ code && code ≤ 13) || code == 32 else Unicode.isBlank code
  | .word =>
    if ascii then
      (48 ≤ code && code ≤ 57) || (65 ≤ code && code ≤ 90) || (97 ≤ code && code ≤ 122) || code == 95
    else
      Unicode.isLetter code || Unicode.isNumber code || code == 95

namespace Flags

def lower (flags : Flags) (code : Nat) : Nat :=
  if flags.ascii then asciiLowerCode code else Unicode.lowerCode code

def alike (flags : Flags) (code : Nat) : List Nat :=
  if flags.ascii then [code] else code :: Unicode.partners code

def sources (flags : Flags) (code : Nat) : List Nat :=
  if flags.ascii then
    if 97 ≤ code ∧ code ≤ 122 then [code, code - 32] else [code]
  else
    (flags.alike code).flatMap Unicode.lowerSources

def same (flags : Flags) (expected code : Nat) : Bool :=
  if flags.ignoreCase then
    (flags.alike (flags.lower expected)).contains (flags.lower code)
  else
    expected == code

end Flags

def lastBasicCode : Nat := 0xFFFF

/-- A set member covers a character given by its lower case form. A member outside the basic plane
stands for itself alone, and a range that reaches out of it also covers the characters whose upper
case form lies in it. -/
def Member.coversLowered (flags : Flags) (code : Nat) : Member → Bool
  | .code expected =>
    if lastBasicCode < expected then expected == code
    else (flags.alike (flags.lower expected)).contains code
  | .range first last =>
    (flags.sources code).any (fun source => first ≤ source && source ≤ last) ||
      (lastBasicCode < last &&
        first ≤ Unicode.upperCode code && Unicode.upperCode code ≤ last)
  | .ofKind kind inside => kind.holds flags.ascii code == inside

def Member.covers (flags : Flags) (code : Nat) (member : Member) : Bool :=
  if flags.ignoreCase then
    member.coversLowered flags (flags.lower code)
  else
    match member with
    | .code expected => expected == code
    | .range first last => first ≤ code && code ≤ last
    | .ofKind kind inside => kind.holds flags.ascii code == inside

def CharTest.accepts (flags : Flags) (c : Char) : CharTest → Bool
  | .any => flags.dotAll || c != '\n'
  | .exactly code => flags.same code c.toNat
  | .except code => !flags.same code c.toNat
  | .oneOf members => members.any (·.covers flags c.toNat)
  | .noneOf members => !members.any (·.covers flags c.toNat)

end ProtocolGate.Pattern
