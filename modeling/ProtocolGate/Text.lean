/-!
Texts and the small operations on them that the whole library shares: ASCII case folding, collapsing
of blank runs, slices, and numerals.
-/

namespace ProtocolGate

/-- A text is its sequence of code points; lengths and positions count code points. -/
abbrev Text := List Char

def asciiLower (text : Text) : Text :=
  text.map Char.toLower

def isBlank (c : Char) : Bool :=
  c == ' ' || c == '\t' || c == '\n' || c == '\r'

/-- Collapses blank runs; `inRun` says that a blank has just been written. -/
def collapseFrom (inRun : Bool) : Text → Text
  | [] => []
  | c :: rest =>
    if isBlank c then
      if inRun then collapseFrom true rest else ' ' :: collapseFrom true rest
    else
      c :: collapseFrom false rest

def collapseBlanks (text : Text) : Text :=
  collapseFrom false text

/-- The index that a position names; a negative position counts from the end. -/
def placeOf (size : Nat) (position : Int) : Nat :=
  if position < 0 then (size + position).toNat else position.toNat

def slice (text : Text) (start stop : Int) : Text :=
  (text.take (placeOf text.length stop)).drop (placeOf text.length start)

def sliceFrom (text : Text) (start : Int) : Text :=
  text.drop (placeOf text.length start)

def numeral (n : Nat) : Text :=
  Nat.toDigits 10 n

def signedNumeral (n : Int) : Text :=
  if n < 0 then '-' :: numeral n.natAbs else numeral n.natAbs

def padZeros (width : Nat) (text : Text) : Text :=
  List.replicate (width - text.length) '0' ++ text

def hexNumeral (width n : Nat) : Text :=
  padZeros width (Nat.toDigits 16 n)

def upperHexNumeral (width n : Nat) : Text :=
  (hexNumeral width n).map Char.toUpper

end ProtocolGate
