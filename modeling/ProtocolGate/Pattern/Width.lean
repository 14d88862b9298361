import ProtocolGate.Pattern.Fault
import ProtocolGate.Pattern.Node

/-! How many characters a node can read, and the complaints that depend on it. -/

namespace ProtocolGate.Pattern

def widthLimit : Nat := Nat.pow 2 64

/-- The greatest width of a look-behind, and the first repetition bound that is too large. -/
def countLimit : Nat := Nat.pow 2 32 - 1

namespace Width

def zero : Width := { least := 0, most := 0 }

def add (left right : Width) : Width where
  least := min (left.least + right.least) widthLimit
  most := min (left.most + right.most) widthLimit

def join (left right : Width) : Width where
  least := min left.least right.least
  most := max left.most right.most

def times (body : Width) (least : Nat) (most : Option Nat) : Width where
  least := min (body.least * least) widthLimit
  most := match most with
    | some most => min (body.most * most) widthLimit
    | none => if body.most = 0 then 0 else widthLimit

end Width

def Node.width (groups : List (Nat × Width)) : Node → Width
  | .empty | .anchor _ | .lookAhead _ _ | .lookBehind _ _ _ => .zero
  | .char _ => { least := 1, most := 1 }
  | .group _ body | .scoped _ _ body | .atomic body => body.width groups
  | .reference index => (groups.lookup index).getD .zero
  | .condition _ present absent => (present.width groups).join (absent.width groups)
  | .repeated _ least most body => (body.width groups).times least most
  | .sequence first rest => (first.width groups).add (rest.width groups)
  | .choice first rest => (first.width groups).join (rest.width groups)

def Style.operator : Style → String
  | .greedy => "MAX_REPEAT"
  | .lazy => "MIN_REPEAT"
  | .possessive => "POSSESSIVE_REPEAT"

/-- The first complaint about a finished node: a look-behind whose width is not fixed or too large,
or a repetition in a template. -/
def Node.complaint? (flags : Flags) : Node → Option Complaint
  | .empty | .anchor _ | .char _ | .reference _ => none
  | .group _ body | .atomic body | .lookAhead _ body => body.complaint? flags
  | .scoped added removed body => body.complaint? (flags.inside added removed)
  | .lookBehind width _ body =>
    if countLimit < width.least then some .lookBehindTooLong
    else if width.least ≠ width.most then some .lookBehindWidth
    else body.complaint? flags
  | .repeated style _ _ body =>
    if flags.template then some (.templateRepeat style.operator) else body.complaint? flags
  | .condition _ first rest | .sequence first rest | .choice first rest =>
    (first.complaint? flags).or (rest.complaint? flags)

end ProtocolGate.Pattern
