import ProtocolGate.Pattern.Fault

/-!
A rule as a source of tokens: single characters, and characters escaped by a backslash. The token
after the current one is always read ahead, so a lone backslash at the end is found one token early.
-/

namespace ProtocolGate.Pattern

inductive Token where
  | plain (char : Char)
  | escaped (char : Char)
deriving DecidableEq

namespace Token

def text : Token → Text
  | plain char => [char]
  | escaped char => ['\\', char]

def width (token : Token) : Nat :=
  token.text.length

end Token

/-- The unread part of a rule: the next token, where it starts, and what follows it. -/
structure Source where
  next : Option Token
  rest : Text
  position : Nat

namespace Source

def openAt (position : Nat) : Text → Except Fault Source
  | [] => .ok { next := none, rest := [], position }
  | ['\\'] => .error { complaint := .trailingBackslash, position := some position }
  | '\\' :: char :: rest => .ok { next := some (.escaped char), rest, position }
  | char :: rest => .ok { next := some (.plain char), rest, position }

def advance (source : Source) : Except Fault Source :=
  match source.next with
  | none => .ok source
  | some token => openAt (source.position + token.width) source.rest

def size (source : Source) : Nat :=
  source.rest.length + 2

end Source

end ProtocolGate.Pattern
