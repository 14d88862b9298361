import ProtocolGate.Fault
import ProtocolGate.Pattern.Matching
import ProtocolGate.Vocabulary

/-!
The registry: an ordered, bounded collection of pattern states and of declared transitions between
them. The order of registration is the order of matching. Both operations check everything before
they change anything.
-/

namespace ProtocolGate

/-- A caller's check of a matched text: it accepts, rejects, or raises a message. -/
abbrev Validator := Text → Except Text Bool

structure State where
  id : Int
  patternType : PatternType
  rule : Text
  accepting : Bool
  requiresZeroTrust : Bool
  transitionCount : Int := 0
  validator : Option Validator := none

def State.agrees (left right : State) : Bool :=
  left.id == right.id && left.patternType == right.patternType && left.rule == right.rule &&
    left.accepting == right.accepting && left.requiresZeroTrust == right.requiresZeroTrust &&
    left.transitionCount == right.transitionCount

structure Transition where
  source : Int
  target : Int
  symbol : Char
  weight : Amount := .float 0
  validator : Option Validator := none

structure Limits where
  states : Int := 256
  transitions : Int := 1024
  ruleLength : Int := 512

/-- States and transitions in the order of their registration. -/
structure Registry where
  ignoreCase : Bool
  zeroTrust : Bool := true
  limits : Limits := {}
  states : List State := []
  transitions : List Transition := []

namespace Registry

def register (registry : Registry) (patternType : Datum) (rule : Option Text)
    (validator : Option Validator) (requiresZeroTrust : Option Bool := none) :
    Except Fault (State × Registry) :=
  let rule := rule.getD []
  if rule.isEmpty then
    .error (.ruleMissing patternType)
  else if registry.limits.states ≤ registry.states.length then
    .error (.statesFull registry.limits.states)
  else if registry.limits.ruleLength < rule.length then
    .error (.ruleTooLong registry.limits.ruleLength rule.length)
  else
    match PatternType.ofDatum? patternType with
    | none => .error (.patternTypeUnknown patternType)
    | some known =>
      match Pattern.compile registry.ignoreCase rule with
      | .error cause => .error (.ruleInvalid rule cause)
      | .ok _ =>
        let state : State :=
          { id := registry.states.length, patternType := known, rule
            accepting := known.isAccepting
            requiresZeroTrust := requiresZeroTrust.getD registry.zeroTrust
            validator }
        .ok (state, { registry with states := registry.states ++ [state] })

def isKnown (registry : Registry) (id : Int) : Bool :=
  0 ≤ id && id < registry.states.length

def symbol? : Datum → Option Char
  | .text [c] => some c
  | _ => none

def countTransition (source : Int) (state : State) : State :=
  if state.id = source then { state with transitionCount := state.transitionCount + 1 } else state

def addTransition (registry : Registry) (source target : Int) (symbol : Datum) (weight : Amount)
    (validator : Option Validator) : Except Fault (Transition × Registry) :=
  if !registry.isKnown source then
    .error (.stateUnknown source)
  else if !registry.isKnown target then
    .error (.stateUnknown target)
  else
    match symbol? symbol with
    | none => .error (.symbolNotSingle symbol)
    | some c =>
      if weight.isNegative then
        .error (.weightNegative weight)
      else if registry.limits.transitions ≤ registry.transitions.length then
        .error (.transitionsFull registry.limits.transitions)
      else
        let transition : Transition := { source, target, symbol := c, weight, validator }
        .ok (transition,
          { registry with
            states := registry.states.map (countTransition source)
            transitions := registry.transitions ++ [transition] })

def get (registry : Registry) (id : Int) : Except Fault State :=
  if id < 0 then
    .error (.stateUnknown id)
  else
    match registry.states[id.toNat]? with
    | some state => .ok state
    | none => .error (.stateUnknown id)

def transitionsFrom (registry : Registry) (id : Int) : List Transition :=
  registry.transitions.filter fun transition => transition.source == id

end Registry

end ProtocolGate
