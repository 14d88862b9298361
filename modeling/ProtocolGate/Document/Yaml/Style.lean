import ProtocolGate.Document
import ProtocolGate.Pattern.Matching

/-!
The style in which a text is written in YAML. Plain is preferred, then single quotes, then double
quotes. A plain text must not read as a value of another kind, and must not hold what has a meaning
in the structure of a document.
-/

namespace ProtocolGate.Document.Yaml

inductive Style where
  | plain
  | single
  | double
deriving DecidableEq

def isBreak (c : Char) : Bool :=
  c == '\n' || c == '\x85' || c == '\u2028' || c == '\u2029'

def isGap (c : Char) : Bool :=
  c == '\x00' || c == ' ' || c == '\t' || c == '\r' || isBreak c

def isVerbatim (c : Char) : Bool :=
  let code := c.toNat
  (0x20 ≤ code && code ≤ 0x7E) ||
    (code != 0xFEFF &&
      ((0xA0 ≤ code && code ≤ 0xFFFD) || (0x10000 ≤ code && code < 0x10FFFF)))

def isSpecial (c : Char) : Bool :=
  !(c == '\n' || c == '\x85' || isVerbatim c)

/-- Plain spellings of values of other kinds: truth values, floating-point numbers, integers, the
merge key, nothing, times, and the default value. -/
def otherKinds : List String :=
  ["^(?:yes|Yes|YES|no|No|NO|true|True|TRUE|false|False|FALSE|on|On|ON|off|Off|OFF)$",
    "^(?:[-+]?(?:[0-9][0-9_]*)\\.[0-9_]*(?:[eE][-+][0-9]+)?" ++
      "|\\.[0-9][0-9_]*(?:[eE][-+][0-9]+)?" ++
      "|[-+]?[0-9][0-9_]*(?::[0-5]?[0-9])+\\.[0-9_]*" ++
      "|[-+]?\\.(?:inf|Inf|INF)|\\.(?:nan|NaN|NAN))$",
    "^(?:[-+]?0b[0-1_]+|[-+]?0[0-7_]+|[-+]?(?:0|[1-9][0-9_]*)|[-+]?0x[0-9a-fA-F_]+" ++
      "|[-+]?[1-9][0-9_]*(?::[0-5]?[0-9])+)$",
    "^(?:<<)$",
    "^(?:~|null|Null|NULL|)$",
    "^(?:[0-9][0-9][0-9][0-9]-[0-9][0-9]-[0-9][0-9]" ++
      "|[0-9][0-9][0-9][0-9]-[0-9][0-9]?-[0-9][0-9]?" ++
      "(?:[Tt]|[ \\t]+)[0-9][0-9]?:[0-9][0-9]:[0-9][0-9](?:\\.[0-9]*)?" ++
      "(?:[ \\t]*(?:Z|[-+][0-9][0-9]?(?::[0-9][0-9])?))?)$",
    "^(?:=)$"]

def otherKindRules : List (Except Pattern.Fault Pattern.Compiled) :=
  otherKinds.map fun rule => Pattern.compile false rule.toList

def readsAsOtherKind (text : Text) : Bool :=
  otherKindRules.any fun
    | .ok compiled => (compiled.matchLength? text).isSome
    | .error _ => false

def endsWord : Text → Bool
  | [] => true
  | c :: _ => isGap c

def opensWithIndicator : Text → Bool
  | [] => false
  | c :: rest =>
    "---".toList.isPrefixOf (c :: rest) || "...".toList.isPrefixOf (c :: rest) ||
      "#,[]\x7b\x7d&*!|>'\"%@`".toList.contains c ||
      ((c == '?' || c == ':' || c == '-') && endsWord rest)

/-- A text holds a colon that ends a word, or a number sign that starts one. -/
def holdsIndicator (afterGap : Bool) : Text → Bool
  | [] => false
  | c :: rest =>
    (c == ':' && endsWord rest) || (c == '#' && afterGap) || holdsIndicator (isGap c) rest

def hasSpaceAtBreak : Text → Bool
  | [] => false
  | [_] => false
  | c :: next :: rest =>
    (c == ' ' && isBreak next) || (isBreak c && next == ' ') || hasSpaceAtBreak (next :: rest)

def canBePlain (text : Text) : Bool :=
  !readsAsOtherKind text && text.head? != some ' ' && text.getLast? != some ' ' &&
    !text.any isBreak && !text.any isSpecial && !opensWithIndicator text &&
    !holdsIndicator true text

def canBeSingle (text : Text) : Bool :=
  !text.any isSpecial && !hasSpaceAtBreak text

def styleOf (text : Text) : Style :=
  if canBePlain text then .plain else if canBeSingle text then .single else .double

end ProtocolGate.Document.Yaml
