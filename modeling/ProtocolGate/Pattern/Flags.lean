/-! The switches of a match rule: set for a whole rule, or inside a group for that group only. -/

namespace ProtocolGate.Pattern

inductive Switch where
  | ignoreCase
  | locale
  | multiline
  | dotAll
  | verbose
  | ascii
  | template
  | unicode
deriving DecidableEq

def Switch.ofLetter? : Char → Option Switch
  | 'i' => some .ignoreCase
  | 'L' => some .locale
  | 'm' => some .multiline
  | 's' => some .dotAll
  | 'x' => some .verbose
  | 'a' => some .ascii
  | 't' => some .template
  | 'u' => some .unicode
  | _ => none

def Switch.choosesAlphabet : Switch → Bool
  | .locale | .ascii | .unicode => true
  | _ => false

structure Flags where
  ignoreCase : Bool := false
  multiline : Bool := false
  dotAll : Bool := false
  verbose : Bool := false
  ascii : Bool := false
  template : Bool := false
  unicode : Bool := false
deriving DecidableEq

namespace Flags

/-- Turns a switch on; the locale has no meaning for texts and is not kept. -/
def turnOn (flags : Flags) : Switch → Flags
  | .ignoreCase => { flags with ignoreCase := true }
  | .locale => flags
  | .multiline => { flags with multiline := true }
  | .dotAll => { flags with dotAll := true }
  | .verbose => { flags with verbose := true }
  | .ascii => { flags with ascii := true }
  | .template => { flags with template := true }
  | .unicode => { flags with unicode := true }

def union (left right : Flags) : Flags where
  ignoreCase := left.ignoreCase || right.ignoreCase
  multiline := left.multiline || right.multiline
  dotAll := left.dotAll || right.dotAll
  verbose := left.verbose || right.verbose
  ascii := left.ascii || right.ascii
  template := left.template || right.template
  unicode := left.unicode || right.unicode

def inter (left right : Flags) : Flags where
  ignoreCase := left.ignoreCase && right.ignoreCase
  multiline := left.multiline && right.multiline
  dotAll := left.dotAll && right.dotAll
  verbose := left.verbose && right.verbose
  ascii := left.ascii && right.ascii
  template := left.template && right.template
  unicode := left.unicode && right.unicode

def diff (left right : Flags) : Flags where
  ignoreCase := left.ignoreCase && !right.ignoreCase
  multiline := left.multiline && !right.multiline
  dotAll := left.dotAll && !right.dotAll
  verbose := left.verbose && !right.verbose
  ascii := left.ascii && !right.ascii
  template := left.template && !right.template
  unicode := left.unicode && !right.unicode

/-- The switches inside a group that adds some and removes others; a group that chooses an alphabet
leaves the one around it. -/
def inside (flags added removed : Flags) : Flags :=
  let outer :=
    if added.ascii || added.unicode then { flags with ascii := false, unicode := false } else flags
  (outer.union added).diff removed

end Flags

end ProtocolGate.Pattern
