import ProtocolGate.Canonical.Form
import ProtocolGate.Record
import ProtocolGate.Registry

/-!
The scan of a canonical text. At every place the states are tried in order, and the first one whose
rule matches something and whose validator accepts it takes that part of the text; where there is
none, one character is skipped.
-/

namespace ProtocolGate

inductive ScanStatus where
  | complete
  | part
  | noMatch
  | truncated
deriving DecidableEq

def ScanStatus.name : ScanStatus → String
  | complete => "complete"
  | part => "partial"
  | noMatch => "no_match"
  | truncated => "truncated"

inductive Segment where
  | skipped (char : Char)
  | matched (state : State) (content : Text)

structure Candidate where
  state : State
  compiled : Except Pattern.Fault Pattern.Compiled

namespace Scan

def candidates (ignoreCase : Bool) (states : List State) : List Candidate :=
  states.map fun state => { state, compiled := Pattern.compile ignoreCase state.rule }

def verdict (state : State) (content : Text) : Except Failure Bool :=
  match state.validator with
  | none => .ok true
  | some validator =>
    match validator content with
    | .ok accepted => .ok accepted
    | .error message => .error (.raised message)

/-- The first candidate that takes a part of the text, with the length of that part. -/
def firstMatch : List Candidate → Text → Except Failure (Option (State × Nat))
  | [], _ => .ok none
  | candidate :: others, text =>
    match candidate.compiled with
    | .error cause => .error (.fault (.ruleInvalid candidate.state.rule cause))
    | .ok compiled =>
      match compiled.matchLength? text with
      | none | some 0 => firstMatch others text
      | some length =>
        match verdict candidate.state (text.take length) with
        | .error failure => .error failure
        | .ok true => .ok (some (candidate.state, length))
        | .ok false => firstMatch others text

/-- The segments of a text; every round takes at least one character, so as many rounds as there are
characters suffice. -/
def segmentsFrom (tried : List Candidate) : Nat → Text → Except Failure (List Segment)
  | 0, _ => .ok []
  | _ + 1, [] => .ok []
  | fuel + 1, c :: rest =>
    match firstMatch tried (c :: rest) with
    | .error failure => .error failure
    | .ok none => (segmentsFrom tried fuel rest).map (.skipped c :: ·)
    | .ok (some (state, length)) =>
      (segmentsFrom tried fuel ((c :: rest).drop length)).map
        (.matched state ((c :: rest).take length) :: ·)

def segments (tried : List Candidate) (text : Text) : Except Failure (List Segment) :=
  segmentsFrom tried text.length text

end Scan

namespace Segment

def state? : Segment → Option State
  | skipped _ => none
  | matched state _ => some state

def record? : Segment → Option Record
  | skipped _ => none
  | matched state content => some (.ofMatch state.id state.patternType content)

def isSkipped : Segment → Bool
  | skipped _ => true
  | matched _ _ => false

end Segment

structure ScanOutcome where
  canonical : Canonical.Form
  records : List Record
  matchedStates : List Int
  finalState : Int
  unmatched : Nat
  cost : Float
  accepted : Bool

namespace ScanOutcome

/-- The status of a scan; truncation comes first. -/
def status (outcome : ScanOutcome) : ScanStatus :=
  if outcome.canonical.truncated then .truncated
  else if outcome.records.isEmpty then .noMatch
  else if outcome.unmatched = 0 then .complete
  else .part

def ofSegments (canonical : Canonical.Form) (states : List State) (initialState : Int)
    (segments : List Segment) : ScanOutcome :=
  let records := segments.filterMap Segment.record?
  let matchedStates := segments.filterMap fun segment => segment.state?.map State.id
  let finalState := matchedStates.getLast?.getD initialState
  let final := states.find? fun state => state.id == finalState
  { canonical, records, matchedStates, finalState
    unmatched := segments.countP Segment.isSkipped
    cost := Record.totalCost records
    accepted := !matchedStates.isEmpty && final.any State.accepting }

end ScanOutcome

def scan (ignoreCase : Bool) (canonical : Canonical.Form) (states : List State)
    (initialState : Int) : Except Failure ScanOutcome :=
  (Scan.segments (Scan.candidates ignoreCase states) canonical.text).map
    (ScanOutcome.ofSegments canonical states initialState)

end ProtocolGate
