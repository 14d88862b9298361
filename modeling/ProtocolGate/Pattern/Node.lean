import ProtocolGate.Pattern.Flags
import ProtocolGate.Text

/-!
The syntax of a match rule: a tree of single-character tests, anchors, groups, repetitions,
alternatives and look-arounds. Code points are numbers here, because a rule can name code points
that no text holds.
-/

namespace ProtocolGate.Pattern

inductive Kind where
  | digit
  | space
  | word
deriving DecidableEq

inductive Member where
  | code (code : Nat)
  | range (first last : Nat)
  | ofKind (kind : Kind) (inside : Bool)
deriving DecidableEq

inductive CharTest where
  | any
  | exactly (code : Nat)
  | except (code : Nat)
  | oneOf (members : List Member)
  | noneOf (members : List Member)
deriving DecidableEq

inductive Anchor where
  | lineStart
  | lineEnd
  | textStart
  | textEnd
  | wordEdge
  | noWordEdge
deriving DecidableEq

inductive Style where
  | greedy
  | lazy
  | possessive
deriving DecidableEq

/-- The least and greatest number of characters that a node can read; the greatest value stands for
all numbers from it on. -/
structure Width where
  least : Nat
  most : Nat
deriving DecidableEq

inductive Node where
  | empty
  | char (test : CharTest)
  | anchor (place : Anchor)
  | group (index : Nat) (body : Node)
  | scoped (added removed : Flags) (body : Node)
  | atomic (body : Node)
  | reference (index : Nat)
  | condition (index : Nat) (present absent : Node)
  | lookAhead (wanted : Bool) (body : Node)
  | lookBehind (width : Width) (wanted : Bool) (body : Node)
  | repeated (style : Style) (least : Nat) (most : Option Nat) (body : Node)
  | sequence (first rest : Node)
  | choice (first rest : Node)

namespace Node

def sameLeaf : Node → Node → Bool
  | .char left, .char right => left == right
  | .anchor left, .anchor right => left == right
  | .reference left, .reference right => left == right
  | _, _ => false

def ofSequence : List Node → Node
  | [] => .empty
  | [node] => node
  | node :: rest => .sequence node (ofSequence rest)

def ofChoice : List Node → Node
  | [] => .empty
  | [node] => node
  | node :: rest => .choice node (ofChoice rest)

/-- The leaves that all alternatives start with, and what remains of the first one and of the
others. -/
def splitCommon : List Node → List (List Node) → List Node × List Node × List (List Node)
  | [], others => ([], [], others)
  | node :: rest, others =>
    if others.all fun other => other.head?.any node.sameLeaf then
      let (common, first, remaining) := splitCommon rest (others.map List.tail)
      (node :: common, first, remaining)
    else
      ([], node :: rest, others)

def members? : List Node → Option (List Member)
  | [.char (.exactly code)] => some [.code code]
  | [.char (.oneOf members)] => some members
  | _ => none

/-- The alternatives of a group or a rule: common leading leaves come out of the choice, and a
choice of single characters is a set. -/
def ofAlternatives (first : List Node) (others : List (List Node)) : List Node :=
  if others.isEmpty then
    first
  else
    let (common, first, others) := splitCommon first others
    match (first :: others).mapM members? with
    | some members => common ++ [.char (.oneOf members.flatten.eraseDups)]
    | none => common ++ [ofChoice ((first :: others).map ofSequence)]

end Node

end ProtocolGate.Pattern
