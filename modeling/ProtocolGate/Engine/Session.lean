import ProtocolGate.Specification.Format

/-!
Sessions: an engine under a sequence of operations. A session also counts the scopes that were
entered; leaving them tears the engine down once for each.
-/

namespace ProtocolGate

structure Session where
  engine : Engine
  openScopes : Nat := 0

namespace Session

inductive Operation where
  | start (zeroTrust : Bool)
  | teardown
  | enterScope
  | leaveScopes
  | register (patternType : Datum) (rule : Option Text) (validator : Option Validator)
  | registerStandard (includeHeader : Bool)
  | addTransition (source target : Int) (symbol : Datum) (weight : Amount)
      (validator : Option Validator)
  | normalize (data : Datum) (bound : Option Int)
  | equivalent (first second : Datum)
  | requireEquivalent (first second : Datum)
  | process (data : Datum)
  | validate (data : Datum)
  | cost
  | zone
  | states
  | config
  | specification
  | exportAs (format : Datum)

inductive Answer where
  | done
  | id (id : Int)
  | ids (ids : List Int)
  | transition (transition : Transition)
  | form (form : Canonical.Form)
  | verdict (equivalent : Bool)
  | text (text : Text)
  | outcome (outcome : ScanOutcome)
  | cost (cost : Float)
  | zone (zone : Governance.Zone)
  | states (states : List State)
  | config (config : Config)
  | specification (specification : Specification)

/-- Enters a scope; the scope is open only if the engine is initialised then. -/
def enterScope (session : Session) : Except Fault Unit × Session :=
  match session.engine.enter with
  | (.error fault, engine) => (.error fault, { session with engine })
  | (.ok (), engine) => (.ok (), { engine, openScopes := session.openScopes + 1 })

def teardownTimes : Nat → Engine → Engine
  | 0, engine => engine
  | count + 1, engine => teardownTimes count engine.teardown

def leaveScopes (session : Session) : Session where
  engine := teardownTimes session.openScopes session.engine

def answer (wrap : α → Answer) (result : Except Fault α) : Except Failure Answer :=
  match result with
  | .ok value => .ok (wrap value)
  | .error fault => .error (.fault fault)

def advance (session : Session) (wrap : α → Answer) (step : Except Fault α × Engine) :
    Except Failure Answer × Session :=
  (answer wrap step.1, { session with engine := step.2 })

def perform (session : Session) : Operation → Except Failure Answer × Session
  | .start zeroTrust => session.advance (fun _ => .done) (session.engine.start zeroTrust)
  | .teardown => (.ok .done, { session with engine := session.engine.teardown })
  | .enterScope =>
    let (result, session) := session.enterScope
    (answer (fun _ => .done) result, session)
  | .leaveScopes => (.ok .done, session.leaveScopes)
  | .register patternType rule validator =>
    session.advance .id (session.engine.register patternType rule validator)
  | .registerStandard includeHeader =>
    session.advance .ids (session.engine.registerStandard includeHeader)
  | .addTransition source target symbol weight validator =>
    session.advance .transition
      (session.engine.addTransition source target symbol weight validator)
  | .normalize data bound => session.advance .form (session.engine.normalize data bound)
  | .equivalent first second =>
    session.advance .verdict (session.engine.equivalent first second)
  | .requireEquivalent first second =>
    session.advance .text (session.engine.requireEquivalent first second)
  | .process data =>
    let (result, engine) := session.engine.process data
    (result.map .outcome, { session with engine })
  | .validate data =>
    let (result, engine) := session.engine.validate data
    (result.map .outcome, { session with engine })
  | .cost => (answer .cost session.engine.cost, session)
  | .zone => (answer .zone session.engine.zone, session)
  | .states => (answer .states session.engine.states, session)
  | .config => (.ok (.config session.engine.config), session)
  | .specification => (session.engine.specification.map .specification, session)
  | .exportAs format => ((session.engine.exportAs format).map .text, session)

def run (session : Session) (operations : List Operation) : Session :=
  operations.foldl (fun session operation => (session.perform operation).2) session

end Session

end ProtocolGate
