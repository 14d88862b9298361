import ProtocolGate.Pattern.Source
import ProtocolGate.Pattern.Width

/-! The state of reading a rule, and the steps that all parts of the reader share. -/

namespace ProtocolGate.Pattern

/-- What is known while a rule is read: the unread part, the switches of the whole rule, the groups
opened and closed so far, and where conditions first named a group by number. -/
structure Reading where
  source : Source
  flags : Flags
  nextGroup : Nat := 1
  names : List (Text × Nat) := []
  closed : List (Nat × Width) := []
  lookBehindStart : Option Nat := none
  conditions : List (Nat × Nat) := []

abbrev Reader := StateT Reading (Except Fault)

namespace Reader

def fail (complaint : Complaint) (back : Nat := 0) : Reader α := do
  let position := (← get).source.position - back
  throw { complaint, position := some position }

def failAt (position : Nat) (complaint : Complaint) : Reader α :=
  throw { complaint, position := some position }

def failAnywhere (complaint : Complaint) : Reader α :=
  throw { complaint }

def peek : Reader (Option Token) :=
  return (← get).source.next

def position : Reader Nat :=
  return (← get).source.position

def take : Reader (Option Token) := do
  let reading ← get
  let source ← reading.source.advance
  set { reading with source }
  return reading.source.next

def accept (char : Char) : Reader Bool := do
  if (← peek) == some (.plain char) then
    discard take
    return true
  else
    return false

def takeWhile (test : Char → Bool) : Nat → Reader Text
  | 0 => return []
  | count + 1 => do
    match ← peek with
    | some (.plain char) =>
      if test char then
        discard take
        return char :: (← takeWhile test count)
      else
        return []
    | _ => return []

def takeUntil (terminator : Char) (what : String) : Nat → Text → Reader Text
  | 0, _ => fail .nestedTooDeep
  | fuel + 1, done => do
    match ← take with
    | none =>
      if done.isEmpty then fail (.missingName what)
      else fail (.unterminatedName terminator) done.length
    | some token =>
      if token == .plain terminator then
        if done.isEmpty then fail (.missingName what) 1 else return done
      else
        takeUntil terminator what fuel (done ++ token.text)

def name (terminator : Char) (what : String) : Reader Text := do
  takeUntil terminator what (← get).source.size []

/-- A reference inside a look-behind may only name groups closed before it. -/
def checkLookBehind (index : Nat) : Reader Unit := do
  let reading ← get
  match reading.lookBehindStart with
  | none => return
  | some start =>
    if (reading.closed.lookup index).isNone then fail .openGroup
    else if start ≤ index then fail .groupOfSameLookBehind
    else return

end Reader

end ProtocolGate.Pattern
