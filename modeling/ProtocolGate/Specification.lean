import ProtocolGate.Canonical.Rewrite
import ProtocolGate.Document
import ProtocolGate.Engine

/-!
The specification of an engine: a snapshot of its settings, limits, costs, rewrites, states and
transitions, with every transition listed under the state that it leaves.
-/

namespace ProtocolGate

namespace Specification

structure TransitionEntry where
  target : Int
  symbol : Char
  weight : Float

structure StateEntry where
  id : Int
  patternType : PatternType
  rule : Text
  isInitial : Bool
  isAccepting : Bool
  requiresZeroTrust : Bool
  hasValidator : Bool
  transitions : List TransitionEntry

structure RewriteEntry where
  rewrite : Canonical.Rewrite
  shadowed : Bool

end Specification

structure Specification where
  zeroTrust : Bool
  encodingNormalize : Bool
  caseFold : Bool
  whitespaceCollapse : Bool
  limits : Limits
  bufferSize : Nat
  autonomousThreshold : Float
  warningThreshold : Float
  cost : Float
  zone : Governance.Zone
  rewrites : List Specification.RewriteEntry
  states : List Specification.StateEntry

namespace Specification

def protocolVersion : String := "1.0"

def schemaVersion : String := "AEGIS-DFA-2025.1"

def TransitionEntry.ofTransition? (transition : Transition) : Option TransitionEntry :=
  transition.weight.toFloat?.map fun weight =>
    { target := transition.target, symbol := transition.symbol, weight }

def StateEntry.ofState? (registry : Registry) (state : State) : Option StateEntry :=
  ((registry.transitionsFrom state.id).mapM TransitionEntry.ofTransition?).map fun transitions =>
    { id := state.id
      patternType := state.patternType
      rule := state.rule
      isInitial := state.id == Engine.initialState
      isAccepting := state.accepting
      requiresZeroTrust := state.requiresZeroTrust
      hasValidator := state.validator.isSome
      transitions }

def RewriteEntry.ofTable (table : Canonical.Table) : List RewriteEntry :=
  table.zipIdx.map fun (rewrite, index) => { rewrite, shadowed := table.isShadowed index }

end Specification

/-- The snapshot of an engine; a weight that no floating-point number stands for is an overflow. -/
def Engine.specification (engine : Engine) : Except Failure Specification := do
  let cost ← engine.cost.mapError .fault
  let zone ← engine.zone.mapError .fault
  let entries? := engine.registry.states.mapM (Specification.StateEntry.ofState? engine.registry)
  let states ← entries?.elim (.error .overflow) .ok
  let policy := engine.context.policy
  return {
    zeroTrust := engine.zeroTrust
    encodingNormalize := policy.encodingNormalize
    caseFold := policy.caseFold
    whitespaceCollapse := policy.whitespaceCollapse
    limits := engine.registry.limits
    bufferSize := engine.context.bufferSize
    autonomousThreshold := engine.config.autonomousThreshold
    warningThreshold := engine.config.warningThreshold
    cost, zone
    rewrites := Specification.RewriteEntry.ofTable policy.table
    states }

namespace Specification

def field (name : String) (value : Document) : Text × Document :=
  (name.toList, value)

def TransitionEntry.toDocument (entry : TransitionEntry) : Document :=
  .object
    [field "to_state" (.int entry.target), field "input_symbol" (.text [entry.symbol]),
      field "cost_weight" (.float entry.weight)]

def StateEntry.toDocument (entry : StateEntry) : Document :=
  .object
    [field "id" (.int entry.id), field "pattern_type" (.word entry.patternType.name),
      field "regex" (.text entry.rule), field "is_initial" (.truth entry.isInitial),
      field "is_accepting" (.truth entry.isAccepting),
      field "zero_trust_validation" (.truth entry.requiresZeroTrust),
      field "has_validator" (.truth entry.hasValidator),
      field "transitions" (.list (entry.transitions.map TransitionEntry.toDocument))]

def RewriteEntry.toDocument (entry : RewriteEntry) : Document :=
  .object
    [field "encoded" (.text entry.rewrite.encoded),
      field "canonical" (.text entry.rewrite.canonical),
      field "security_risk" (.text entry.rewrite.risk),
      field "shadowed" (.truth entry.shadowed)]

def recordTypeEntry (patternType : PatternType) : Document :=
  .object
    [field "state_pattern" (.word patternType.name),
      field "ir_node_type" (.word patternType.recordType.name)]

def limitsEntry (specification : Specification) : Document :=
  .object
    [field "max_states" (.int specification.limits.states),
      field "max_transitions" (.int specification.limits.transitions),
      field "max_pattern_length" (.int specification.limits.ruleLength),
      field "canonical_buffer_size" (.int specification.bufferSize)]

def governanceEntry (specification : Specification) : Document :=
  .object
    [field "cost_threshold" (.float specification.autonomousThreshold),
      field "warning_threshold" (.float specification.warningThreshold),
      field "current_cost" (.float specification.cost),
      field "zone" (.word specification.zone.name)]

def toDocument (specification : Specification) : Document :=
  .object
    [field "protocol_version" (.word protocolVersion),
      field "schema_version" (.word schemaVersion),
      field "zero_trust_enforced" (.truth specification.zeroTrust),
      field "uscn_normalization_enabled" (.truth specification.encodingNormalize),
      field "case_fold" (.truth specification.caseFold),
      field "whitespace_collapse" (.truth specification.whitespaceCollapse),
      field "limits" specification.limitsEntry,
      field "governance" specification.governanceEntry,
      field "uscn_mappings" (.list (specification.rewrites.map RewriteEntry.toDocument)),
      field "states" (.list (specification.states.map StateEntry.toDocument)),
      field "ir_generation" (.list (PatternType.all.map recordTypeEntry))]

end Specification

end ProtocolGate
