import ProtocolGate.Pattern.Opening

/-!
The grammar of match rules: sets, repetitions, groups and alternatives. A rule is read in one pass;
the first complaint met wins.
-/

namespace ProtocolGate.Pattern

/-- A part of a sequence that is being read. A bare group joins the sequence around it, unless a
repetition takes it as a whole. -/
inductive Piece where
  | node (node : Node)
  | bare (body : List Node)

def joinPieces (pieces : List Piece) : List Node :=
  pieces.reverse.flatMap fun piece =>
    match piece with
    | .node node => [node]
    | .bare body => body

def CharTest.ofSet (negated : Bool) (members : List Member) : CharTest :=
  match negated, members.eraseDups with
  | false, [.code code] => .exactly code
  | true, [.code code] => .except code
  | false, members => .oneOf members
  | true, members => .noneOf members

def isLayout (c : Char) : Bool :=
  c == ' ' || c == '\t' || c == '\n' || c == '\r' || c == '\x0b' || c == '\x0c'

namespace Reader

def setMember : Token → Reader Member
  | .plain char => return .code char.toNat
  | .escaped char => setEscape char

def setMembers (start : Nat) : Nat → List Member → Reader (List Member)
  | 0, _ => failAt start .unterminatedSet
  | fuel + 1, done => do
    match ← take with
    | none => failAt start .unterminatedSet
    | some token =>
      if token == .plain ']' && !done.isEmpty then
        return done
      let first ← setMember token
      if !(← accept '-') then
        setMembers start fuel (done ++ [first])
      else
        match ← take with
        | none => failAt start .unterminatedSet
        | some lastToken =>
          if lastToken == .plain ']' then
            return done ++ [first, .code '-'.toNat]
          let last ← setMember lastToken
          let back := token.width + 1 + lastToken.width
          match first, last with
          | .code low, .code high =>
            if high < low then
              fail (.badRange token.text lastToken.text) back
            else
              setMembers start fuel (done ++ [.range low high])
          | _, _ => fail (.badRange token.text lastToken.text) back

def charSet (start : Nat) : Reader Node := do
  let negated ← accept '^'
  let members ← setMembers start (← get).source.size []
  return .char (.ofSet negated members)

def bound (digits : Text) : Reader (Option Nat) :=
  if digits.isEmpty then
    return none
  else if countLimit ≤ rowValue 10 digits then
    failAnywhere .repetitionTooLarge
  else
    return some (rowValue 10 digits)

/-- Reads bounds in braces after the opening one. Braces that hold no bounds are no repetition, and
nothing is read. -/
def bounds : Reader (Option (Nat × Option Nat)) := do
  if (← peek) == some (.plain '\x7d') then return none
  let before ← get
  let size := before.source.size
  let low ← takeWhile Char.isDigit size
  let high ← if ← accept ',' then takeWhile Char.isDigit size else pure low
  if !(← accept '\x7d') then
    modify fun _ => before
    return none
  let least := (← bound low).getD 0
  let most ← bound high
  if most.any (· < least) then
    failAt before.source.position .leastAboveMost
  else
    return some (least, most)

def repetition (mark : Char) : Reader (Option (Nat × Option Nat)) :=
  match mark with
  | '?' => return some (0, some 1)
  | '*' => return some (0, none)
  | '+' => return some (1, none)
  | _ => bounds

def style : Reader Style := do
  if ← accept '?' then return .lazy
  else if ← accept '+' then return .possessive
  else return .greedy

def repeatable (start : Nat) : Option Piece → Reader Node
  | none | some (.node (.anchor _)) => failAt start .nothingToRepeat
  | some (.node (.repeated ..)) => failAt start .multipleRepeat
  | some (.node node) => return node
  | some (.bare body) => return .ofSequence body

def repeatLatest (start : Nat) (mark : Char) (done : List Piece) : Reader (List Piece) := do
  match ← repetition mark with
  | none => return .node (.char (.exactly mark.toNat)) :: done
  | some (least, most) =>
    let body ← repeatable start done.head?
    return .node (.repeated (← style) least most body) :: done.tail

def openGroup (given : Option Text) : Reader Nat := do
  let reading ← get
  let index := reading.nextGroup
  match given with
  | none =>
    modify fun reading => { reading with nextGroup := index + 1 }
  | some name =>
    match reading.names.lookup name with
    | some earlier => fail (.redefinedGroup name index earlier) (name.length + 1)
    | none =>
      modify fun reading =>
        { reading with nextGroup := index + 1, names := reading.names ++ [(name, index)] }
  return index

def closeGroup (index : Nat) (body : Node) : Reader Unit :=
  modify fun reading =>
    { reading with closed := (index, body.width reading.closed) :: reading.closed }

def closing (start : Nat) : Reader Unit := do
  if !(← accept ')') then failAt start .unterminatedGroup

def skipLine : Nat → Reader Unit
  | 0 => return
  | fuel + 1 => do
    match ← take with
    | none | some (.plain '\n') => return
    | some _ => skipLine fuel

def layoutInside (verbose : Bool) (added removed : Flags) : Bool :=
  (verbose || added.verbose) && !removed.verbose

mutual

def alternatives (outermost : Bool) : Nat → Bool → Reader (List Node)
  | 0, _ => failAnywhere .nestedTooDeep
  | fuel + 1, verbose => do
    let first ← sequence fuel verbose outermost []
    let others ← moreAlternatives outermost fuel verbose
    return Node.ofAlternatives first others

def moreAlternatives (outermost : Bool) : Nat → Bool → Reader (List (List Node))
  | 0, _ => failAnywhere .nestedTooDeep
  | fuel + 1, verbose => do
    if ← accept '|' then
      let reading ← get
      let verbose := if outermost then reading.flags.verbose else verbose
      let next ← sequence fuel verbose false []
      return next :: (← moreAlternatives outermost fuel verbose)
    else
      return []

/-- Reads a sequence up to a bar, a closing parenthesis or the end. Only the sequence that starts a
rule may turn on switches for the whole rule, and only before its first piece. -/
def sequence : Nat → Bool → Bool → List Piece → Reader (List Node)
  | 0, _, _, _ => failAnywhere .nestedTooDeep
  | fuel + 1, verbose, startsRule, done => do
    let start ← position
    let next ← peek
    if next.isNone || next == some (.plain '|') || next == some (.plain ')') then
      return joinPieces done
    match ← take with
    | none => return joinPieces done
    | some (.escaped char) =>
      let node ← nodeEscape char
      sequence fuel verbose startsRule (.node node :: done)
    | some (.plain char) =>
      if verbose && isLayout char then
        sequence fuel verbose startsRule done
      else if verbose && char == '#' then
        skipLine (← get).source.size
        sequence fuel verbose startsRule done
      else
        match char with
        | '[' => do
          let node ← charSet start
          sequence fuel verbose startsRule (.node node :: done)
        | '*' | '+' | '?' | '\x7b' => do
          let done ← repeatLatest start char done
          sequence fuel verbose startsRule done
        | '.' => sequence fuel verbose startsRule (.node (.char .any) :: done)
        | '^' => sequence fuel verbose startsRule (.node (.anchor .lineStart) :: done)
        | '$' => sequence fuel verbose startsRule (.node (.anchor .lineEnd) :: done)
        | '(' => do
          match ← opening start with
          | .comment => sequence fuel verbose startsRule done
          | .globalFlags =>
            if !startsRule || !done.isEmpty then failAt start .globalFlagsInside
            let verbose := (← get).flags.verbose
            sequence fuel verbose startsRule done
          | .reference index =>
            sequence fuel verbose startsRule (.node (.reference index) :: done)
          | .capture name =>
            let index ← openGroup name
            let body := Node.ofSequence (← alternatives false fuel verbose)
            closing start
            closeGroup index body
            sequence fuel verbose startsRule (.node (.group index body) :: done)
          | .bare =>
            let body ← alternatives false fuel verbose
            closing start
            sequence fuel verbose startsRule (.bare body :: done)
          | .atomic =>
            let body := Node.ofSequence (← alternatives false fuel verbose)
            closing start
            sequence fuel verbose startsRule (.node (.atomic body) :: done)
          | .scoped added removed =>
            let body ← alternatives false fuel (layoutInside verbose added removed)
            closing start
            let piece : Piece :=
              if added = {} ∧ removed = {} then .bare body
              else .node (.scoped added removed (Node.ofSequence body))
            sequence fuel verbose startsRule (piece :: done)
          | .lookAhead wanted =>
            let body := Node.ofSequence (← alternatives false fuel verbose)
            closing start
            sequence fuel verbose startsRule (.node (.lookAhead wanted body) :: done)
          | .lookBehind wanted =>
            let outer := (← get).lookBehindStart
            modify fun reading =>
              { reading with lookBehindStart := some (outer.getD reading.nextGroup) }
            let body := Node.ofSequence (← alternatives false fuel verbose)
            modify fun reading => { reading with lookBehindStart := outer }
            closing start
            let width := body.width (← get).closed
            sequence fuel verbose startsRule (.node (.lookBehind width wanted body) :: done)
          | .condition index =>
            let present := Node.ofSequence (← sequence fuel verbose false [])
            let absent ←
              if ← accept '|' then
                let absent ← sequence fuel verbose false []
                if (← peek) == some (.plain '|') then fail .tooManyBranches
                pure (Node.ofSequence absent)
              else
                pure Node.empty
            closing start
            sequence fuel verbose startsRule (.node (.condition index present absent) :: done)
        | _ => sequence fuel verbose startsRule (.node (.char (.exactly char.toNat)) :: done)

end

end Reader

def readRule (flags : Flags) (rule : Text) : Except Fault (Node × Flags) := do
  let source ← Source.openAt 0 rule
  let (nodes, reading) ←
    (Reader.alternatives true (2 * rule.length + 4) flags.verbose).run { source, flags }
  if reading.flags.ascii && reading.flags.unicode then
    throw { complaint := .asciiWithUnicode }
  if reading.source.next.isSome then
    throw { complaint := .unbalancedParenthesis, position := some reading.source.position }
  match reading.conditions.find? fun entry => reading.nextGroup ≤ entry.1 with
  | some (index, place) => throw { complaint := .invalidGroup index, position := some place }
  | none =>
    let node := Node.ofSequence nodes
    match node.complaint? reading.flags with
    | some complaint => throw { complaint }
    | none => return (node, reading.flags)

end ProtocolGate.Pattern
