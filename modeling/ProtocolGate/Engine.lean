import ProtocolGate.Canonical.Equivalence
import ProtocolGate.Config
import ProtocolGate.Governance
import ProtocolGate.Scan

/-!
The engine: a configuration, a canonicalisation context, a registry, and the cost and the position
of the scans since it was initialised. Every operation answers with a result and with the engine
after it, so that what a failing operation leaves behind can be seen.
-/

namespace ProtocolGate

structure Engine where
  config : Config
  initialized : Bool := false
  zeroTrust : Bool := false
  currentState : Int := 0
  accumulated : Float := 0
  context : Canonical.Context
  registry : Registry

namespace Engine

def initialState : Int := 0

def newContext (config : Config) : Canonical.Context where
  policy :=
    { caseFold := config.caseFold
      whitespaceCollapse := config.whitespaceCollapse
      encodingNormalize := config.encodingNormalize }
  bufferSize := config.canonicalBufferSize
  two_le_bufferSize := config.two_le_canonicalBufferSize

def newRegistry (config : Config) (zeroTrust : Bool) : Registry where
  ignoreCase := config.caseFold
  zeroTrust := zeroTrust
  limits :=
    { states := config.maxStates
      transitions := config.maxTransitions
      ruleLength := config.maxPatternLength }

def create (config : Config := {}) : Engine where
  config := config
  context := newContext config
  registry := newRegistry config false

/-- Starts over with the header as the first state. If the configuration leaves no room for the
header, the engine keeps its former `initialized` and loses everything else. -/
def start (engine : Engine) (zeroTrust : Bool := true) : Except Fault Unit × Engine :=
  let cleared : Engine :=
    { engine with
      zeroTrust
      currentState := initialState
      accumulated := 0
      context := newContext engine.config
      registry := newRegistry engine.config zeroTrust }
  match cleared.registry.register (.text PatternType.protocolHeader.name.toList)
      (some StandardRule.header) none (some true) with
  | .error fault => (.error fault, cleared)
  | .ok (_, registry) => (.ok (), { cleared with registry, initialized := true })

/-- Gives up everything but the configuration; an engine that is not initialised stays as it is. -/
def teardown (engine : Engine) : Engine :=
  if engine.initialized then create engine.config else engine

def enter (engine : Engine) : Except Fault Unit × Engine :=
  if engine.initialized then (.ok (), engine) else engine.start

def register (engine : Engine) (patternType : Datum) (rule : Option Text)
    (validator : Option Validator) : Except Fault Int × Engine :=
  if engine.initialized then
    match engine.registry.register patternType rule validator with
    | .error fault => (.error fault, engine)
    | .ok (state, registry) => (.ok state.id, { engine with registry })
  else
    (.error .notInitialized, engine)

def registerEach (engine : Engine) : List (PatternType × Text) → Except Fault (List Int) × Engine
  | [] => (.ok [], engine)
  | (patternType, rule) :: others =>
    match engine.register (.text patternType.name.toList) (some rule) none with
    | (.error fault, engine) => (.error fault, engine)
    | (.ok id, engine) =>
      match engine.registerEach others with
      | (.error fault, engine) => (.error fault, engine)
      | (.ok ids, engine) => (.ok (id :: ids), engine)

def standardPatterns (includeHeader : Bool) : List (PatternType × Text) :=
  StandardRule.patterns.filter fun (_, rule) => includeHeader || rule != StandardRule.header

def registerStandard (engine : Engine) (includeHeader : Bool := false) :
    Except Fault (List Int) × Engine :=
  engine.registerEach (standardPatterns includeHeader)

def addTransition (engine : Engine) (source target : Int) (symbol : Datum) (weight : Amount)
    (validator : Option Validator) : Except Fault Transition × Engine :=
  if engine.initialized then
    match engine.registry.addTransition source target symbol weight validator with
    | .error fault => (.error fault, engine)
    | .ok (transition, registry) => (.ok transition, { engine with registry })
  else
    (.error .notInitialized, engine)

def normalize (engine : Engine) (data : Datum) (bound : Option Int := none) :
    Except Fault Canonical.Form × Engine :=
  if engine.initialized then
    let (result, context) := engine.context.normalize data bound
    (result, { engine with context })
  else
    (.error .notInitialized, engine)

def equivalent (engine : Engine) (first second : Datum) : Except Fault Bool × Engine :=
  if engine.initialized then
    let (result, context) := engine.context.equivalent first second
    (result, { engine with context })
  else
    (.error .notInitialized, engine)

def requireEquivalent (engine : Engine) (first second : Datum) : Except Fault Text × Engine :=
  if engine.initialized then
    let (result, context) := engine.context.requireEquivalent first second
    (result, { engine with context })
  else
    (.error .notInitialized, engine)

def scanForm (engine : Engine) (form : Canonical.Form) : Except Failure ScanOutcome × Engine :=
  match scan engine.registry.ignoreCase form engine.registry.states initialState with
  | .error failure => (.error failure, engine)
  | .ok outcome =>
    match Governance.charge engine.accumulated (.float outcome.cost) with
    | .error failure => (.error failure, engine)
    | .ok accumulated =>
      (.ok outcome, { engine with accumulated, currentState := outcome.finalState })

/-- Scans the canonical form of an input that is not empty. A truncated form is refused where the
configuration says so. -/
def process (engine : Engine) (data : Datum) : Except Failure ScanOutcome × Engine :=
  if engine.initialized then
    match Canonical.inputText data with
    | .error fault => (.error (.fault fault), engine)
    | .ok [] => (.error (.fault .inputEmpty), engine)
    | .ok (_ :: _) =>
      match engine.context.normalize data with
      | (.error fault, context) => (.error (.fault fault), { engine with context })
      | (.ok form, context) =>
        if form.truncated && engine.config.rejectTruncated then
          (.error (.fault (.inputTruncated form.length)), { engine with context })
        else
          ({ engine with context } : Engine).scanForm form
  else
    (.error (.fault .notInitialized), engine)

def checkOutcome (zeroTrust : Bool) (outcome : ScanOutcome) : Except Failure ScanOutcome :=
  if zeroTrust && outcome.canonical.truncated then
    .error (.fault (.validationTruncated outcome.canonical.length))
  else if outcome.accepted then
    .ok outcome
  else
    .error (.fault
      (.notAccepted outcome.finalState outcome.status.name outcome.records.length))

def validate (engine : Engine) (data : Datum) : Except Failure ScanOutcome × Engine :=
  let (result, after) := engine.process data
  (result.bind (checkOutcome engine.zeroTrust), after)

def cost (engine : Engine) : Except Fault Float :=
  if engine.initialized then
    .ok (Governance.cost engine.accumulated engine.registry.states.length
      engine.registry.transitions.length engine.zeroTrust)
  else
    .error .notInitialized

def zone (engine : Engine) : Except Fault Governance.Zone :=
  engine.cost.map fun cost =>
    Governance.zone cost engine.config.autonomousThreshold engine.config.warningThreshold

def states (engine : Engine) : Except Fault (List State) :=
  if engine.initialized then .ok engine.registry.states else .error .notInitialized

end Engine

end ProtocolGate
