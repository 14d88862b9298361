import ProtocolGate.Pattern.Charset
import ProtocolGate.Pattern.Grammar

/-!
Matching of a rule at a place of a text. A node is run with what has to match after it; the first
way that lets everything after it match is taken. Alternatives are tried in order, greedy
repetitions prefer more rounds and lazy ones fewer. Every run ends: nodes get smaller, and a
repetition goes on only after a round that has read something. A compiled rule counts case or not;
without case only ASCII letters are folded, and the kinds of characters are ASCII too.
-/

namespace ProtocolGate.Pattern

structure Capture where
  start : Nat
  ended : Option (Nat × Text) := none

structure Cursor where
  before : Text := []
  rest : Text
  position : Nat := 0
  captures : List (Nat × Capture) := []

namespace Cursor

def atHead (text : Text) : Cursor :=
  { rest := text }

def step? (test : Char → Bool) (cursor : Cursor) : Option Cursor :=
  match cursor.rest with
  | [] => none
  | c :: rest =>
    if test c then
      some { cursor with before := c :: cursor.before, rest, position := cursor.position + 1 }
    else
      none

def back? : Nat → Cursor → Option Cursor
  | 0, cursor => some cursor
  | count + 1, cursor =>
    match cursor.before with
    | [] => none
    | c :: before =>
      back? count
        { cursor with before, rest := c :: cursor.rest, position := cursor.position - 1 }

def openCapture (index : Nat) (cursor : Cursor) : Cursor :=
  let ended := (cursor.captures.lookup index).bind Capture.ended
  let others := cursor.captures.filter (·.1 != index)
  { cursor with captures := (index, { start := cursor.position, ended }) :: others }

def closeCapture (index : Nat) (cursor : Cursor) : Cursor :=
  match cursor.captures.lookup index with
  | none => cursor
  | some capture =>
    let text := (cursor.before.take (cursor.position - capture.start)).reverse
    let others := cursor.captures.filter (·.1 != index)
    let closed : Capture := { capture with ended := some (cursor.position, text) }
    { cursor with captures := (index, closed) :: others }

/-- What a group has read, if it has ended since its latest start. -/
def captured? (index : Nat) (cursor : Cursor) : Option Text := do
  let capture ← cursor.captures.lookup index
  let (stop, text) ← capture.ended
  if capture.start ≤ stop then some text else none

def readSame? (flags : Flags) : Text → Cursor → Option Cursor
  | [], cursor => some cursor
  | expected :: more, cursor => do
    let alike := fun (c : Char) =>
      if flags.ignoreCase then flags.lower expected.toNat == flags.lower c.toNat
      else expected == c
    readSame? flags more (← cursor.step? alike)

end Cursor

def Flags.isWord (flags : Flags) (c : Char) : Bool :=
  Kind.word.holds flags.ascii c.toNat

def Anchor.holds (flags : Flags) (cursor : Cursor) : Anchor → Bool
  | .textStart => cursor.before.isEmpty
  | .textEnd => cursor.rest.isEmpty
  | .lineStart => cursor.before.isEmpty || (flags.multiline && cursor.before.head? == some '\n')
  | .lineEnd =>
    cursor.rest.isEmpty || cursor.rest == ['\n'] ||
      (flags.multiline && cursor.rest.head? == some '\n')
  | .wordEdge =>
    cursor.before.head?.any flags.isWord != cursor.rest.head?.any flags.isWord
  | .noWordEdge =>
    !(cursor.before.isEmpty && cursor.rest.isEmpty) &&
      cursor.before.head?.any flags.isWord == cursor.rest.head?.any flags.isWord

abbrev Continuation := Cursor → Option Cursor

abbrev Runner := Cursor → Continuation → Option Cursor

def requiredRounds (round : Runner) (goOn : Continuation) : Nat → Continuation
  | 0, cursor => goOn cursor
  | count + 1, cursor => round cursor (requiredRounds round goOn count)

/-- The rounds that a repetition may add, at most `most` of them. A round that reads nothing is the
last one. `fuel` is more than the number of characters left. -/
def optionalRounds (preferMore : Bool) (round : Runner) (goOn : Continuation) :
    Nat → Option Nat → Continuation
  | 0, _, cursor => goOn cursor
  | fuel + 1, most, cursor =>
    let another := fun (_ : Unit) =>
      if most = some 0 then none
      else
        round cursor fun after =>
          if after.position = cursor.position then goOn after
          else optionalRounds preferMore round goOn fuel (most.map (· - 1)) after
    if preferMore then
      match another () with
      | some found => some found
      | none => goOn cursor
    else
      match goOn cursor with
      | some found => some found
      | none => another ()

def rounds (preferMore : Bool) (round : Runner) (least : Nat) (most : Option Nat) : Runner :=
  fun cursor goOn =>
    requiredRounds round
      (fun after =>
        optionalRounds preferMore round goOn (after.rest.length + 1) (most.map (· - least)) after)
      least cursor

/-- A runner whose first success is final: what follows cannot make it try another way. -/
def Runner.commit (runner : Runner) : Runner :=
  fun cursor goOn => (runner cursor some).bind goOn

def Node.run (flags : Flags) : Node → Runner
  | .empty => fun cursor goOn => goOn cursor
  | .char test => fun cursor goOn => (cursor.step? fun c => test.accepts flags c).bind goOn
  | .anchor place => fun cursor goOn => if place.holds flags cursor then goOn cursor else none
  | .group index body => fun cursor goOn =>
    body.run flags (cursor.openCapture index) fun after => goOn (after.closeCapture index)
  | .scoped added removed body => body.run (flags.inside added removed)
  | .atomic body => Runner.commit (body.run flags)
  | .reference index => fun cursor goOn => do
    goOn (← cursor.readSame? flags (← cursor.captured? index))
  | .condition index present absent => fun cursor goOn =>
    if (cursor.captured? index).isSome then present.run flags cursor goOn
    else absent.run flags cursor goOn
  | .lookAhead wanted body => fun cursor goOn =>
    match body.run flags cursor some with
    | some after => if wanted then goOn { cursor with captures := after.captures } else none
    | none => if wanted then none else goOn cursor
  | .lookBehind width wanted body => fun cursor goOn =>
    match (cursor.back? width.least).bind fun earlier => body.run flags earlier some with
    | some after => if wanted then goOn { cursor with captures := after.captures } else none
    | none => if wanted then none else goOn cursor
  | .repeated .greedy least most body => rounds true (body.run flags) least most
  | .repeated .lazy least most body => rounds false (body.run flags) least most
  | .repeated .possessive least most body =>
    Runner.commit (rounds true (Runner.commit (body.run flags)) least most)
  | .sequence first rest => fun cursor goOn =>
    first.run flags cursor fun after => rest.run flags after goOn
  | .choice first rest => fun cursor goOn =>
    match first.run flags cursor goOn with
    | some found => some found
    | none => rest.run flags cursor goOn

def Node.matchLength? (flags : Flags) (node : Node) (text : Text) : Option Nat :=
  (node.run flags (.atHead text) some).map Cursor.position

structure Compiled where
  node : Node
  flags : Flags

def compileFlags (ignoreCase : Bool) : Flags :=
  { ignoreCase, ascii := ignoreCase }

def compile (ignoreCase : Bool) (rule : Text) : Except Fault Compiled := do
  let (node, flags) ← readRule (compileFlags ignoreCase) rule
  return { node, flags }

def Compiled.matchLength? (compiled : Compiled) (text : Text) : Option Nat :=
  compiled.node.matchLength? compiled.flags text

end ProtocolGate.Pattern
