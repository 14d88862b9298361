import ProtocolGate.Pattern.Escape
import ProtocolGate.Unicode.Identifier
import ProtocolGate.Unicode.Ranges

/-! What follows an opening parenthesis: the kind of group, its switches, its name. -/

namespace ProtocolGate.Pattern

inductive Opening where
  | comment
  | globalFlags
  | reference (index : Nat)
  | capture (name : Option Text)
  | bare
  | atomic
  | scoped (added removed : Flags)
  | lookAhead (wanted : Bool)
  | lookBehind (wanted : Bool)
  | condition (index : Nat)

def groupLimit : Nat := 1073741823

def readDigits? : Text → Option Nat
  | [] => none
  | first :: rest => do
    let value ← Unicode.decimalValue? first.toNat
    go value rest
where
  go (value : Nat) : Text → Option Nat
    | [] => some value
    | '_' :: digit :: rest => do
      go (10 * value + (← Unicode.decimalValue? digit.toNat)) rest
    | digit :: rest => do
      go (10 * value + (← Unicode.decimalValue? digit.toNat)) rest

/-- The group number that a condition names: a natural number, with blanks around it and a sign
allowed. -/
def groupNumber? (given : Text) : Option Nat :=
  match Unicode.trimBlanks given with
  | '+' :: digits => readDigits? digits
  | '-' :: digits => (readDigits? digits).bind fun value => if value = 0 then some 0 else none
  | digits => readDigits? digits

namespace Reader

def checkName (given : Text) : Reader Unit :=
  if Unicode.isIdentifier given then return else fail (.badGroupName given) (given.length + 1)

def groupOfName (given : Text) : Reader Nat := do
  match (← get).names.lookup given with
  | some index => return index
  | none => fail (.unknownGroup given) (given.length + 1)

def namedReference : Reader Opening := do
  let given ← name ')' "group name"
  checkName given
  let index ← groupOfName given
  if ((← get).closed.lookup index).isNone then
    fail .openGroup (given.length + 1)
  else
    checkLookBehind index
    return .reference index

def conditionGroup : Reader Nat := do
  let given ← name ')' "group name"
  let index ←
    if Unicode.isIdentifier given then
      groupOfName given
    else
      match groupNumber? given with
      | none => fail (.badGroupName given) (given.length + 1)
      | some index =>
        if index = 0 then
          fail .badGroupNumber (given.length + 1)
        else if groupLimit ≤ index then
          fail (.invalidGroup index) (given.length + 1)
        else
          let reading ← get
          if (reading.conditions.lookup index).isNone then
            let place := reading.source.position - (given.length + 1)
            set { reading with conditions := reading.conditions ++ [(index, place)] }
          pure index
  checkLookBehind index
  return index

def comment (start : Nat) : Nat → Reader Unit
  | 0 => failAt start .unterminatedComment
  | fuel + 1 => do
    match ← take with
    | none => failAt start .unterminatedComment
    | some token => if token == .plain ')' then return else comment start fuel

/-- A letter where a switch should be is an unknown switch; anything else breaks the list off. -/
def failSwitch (token : Token) (otherwise : Complaint) : Reader α :=
  match token with
  | .plain char =>
    fail (if Unicode.isLetter char.toNat then .unknownFlag else otherwise) token.width
  | .escaped _ => fail otherwise token.width

def addedFlags : Nat → Flags → Switch → Reader (Flags × Char)
  | 0, _, _ => fail .missingFlagEnd
  | fuel + 1, flags, switch => do
    if switch == .locale then fail .localeFlag
    let flags := flags.turnOn switch
    if switch.choosesAlphabet && flags.ascii && flags.unicode then fail .clashingAlphabets
    match ← take with
    | none => fail .missingFlagEnd
    | some token =>
      match token with
      | .plain char =>
        if char == ')' || char == '-' || char == ':' then
          return (flags, char)
        else
          match Switch.ofLetter? char with
          | some switch => addedFlags fuel flags switch
          | none => failSwitch token .missingFlagEnd
      | .escaped _ => failSwitch token .missingFlagEnd

def removedFlags : Nat → Flags → Switch → Reader Flags
  | 0, _, _ => fail .missingColon
  | fuel + 1, flags, switch => do
    if switch.choosesAlphabet then fail .fixedAlphabet
    let flags := flags.turnOn switch
    match ← take with
    | none => fail .missingColon
    | some token =>
      match token with
      | .plain char =>
        if char == ':' then
          return flags
        else
          match Switch.ofLetter? char with
          | some switch => removedFlags fuel flags switch
          | none => failSwitch token .missingColon
      | .escaped _ => failSwitch token .missingColon

def removedPart : Reader Flags := do
  match ← take with
  | none => fail .missingFlag
  | some token =>
    match token with
    | .plain char =>
      match Switch.ofLetter? char with
      | some switch => removedFlags (← get).source.size {} switch
      | none => failSwitch token .missingFlag
    | .escaped _ => failSwitch token .missingFlag

def flagsPart (first : Option Switch) : Reader Opening := do
  let (added, mark) ←
    match first with
    | some switch => addedFlags ((← get).source.size + 1) {} switch
    | none => pure ({}, '-')
  if mark == ')' then
    modify fun reading => { reading with flags := reading.flags.union added }
    return .globalFlags
  else
    if added.template then fail .globalFlagOn 1
    let removed ← if mark == '-' then removedPart else pure {}
    if removed.template then fail .globalFlagOff 1
    if added.inter removed ≠ {} then fail .turnedOnAndOff 1
    return .scoped added removed

def namedOpening : Reader Opening := do
  if ← accept '<' then
    let given ← name '>' "group name"
    checkName given
    return .capture (some given)
  else if ← accept '=' then
    namedReference
  else
    match ← take with
    | none => fail .unexpectedEnd
    | some token => fail (.unknownExtension ('P' :: token.text)) (token.width + 2)

def behindOpening : Reader Opening := do
  match ← take with
  | none => fail .unexpectedEnd
  | some (.plain '=') => return .lookBehind true
  | some (.plain '!') => return .lookBehind false
  | some token => fail (.unknownExtension ('<' :: token.text)) (token.width + 2)

def opening (start : Nat) : Reader Opening := do
  if !(← accept '?') then return .capture none
  match ← take with
  | none => fail .unexpectedEnd
  | some (.escaped char) => fail (.unknownExtension ['\\', char]) 3
  | some (.plain char) =>
    match char with
    | 'P' => namedOpening
    | ':' => return .bare
    | '#' =>
      comment start (← get).source.size
      return .comment
    | '=' => return .lookAhead true
    | '!' => return .lookAhead false
    | '<' => behindOpening
    | '(' => return .condition (← conditionGroup)
    | '>' => return .atomic
    | '-' => flagsPart none
    | _ =>
      match Switch.ofLetter? char with
      | some switch => flagsPart (some switch)
      | none => fail (.unknownExtension [char]) 2

end Reader

end ProtocolGate.Pattern
