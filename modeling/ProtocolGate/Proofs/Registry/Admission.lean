import ProtocolGate.Proofs.Registry.Calls

/-!
What a registry demands of a call. The demands have an order, and the first one that is not met
decides which fault the call ends with. The calls also stand here as sequences of reads, checks and
writes on one registry that is there throughout, so that whatever a call has written before it fails
would be seen.
-/

namespace ProtocolGate

/-- What a call has to meet, and the faults that it can end with if it does not. -/
structure Demand where
  met : Prop
  refusal : Fault → Prop

namespace Registry

/-- A call is decided by demands: if all of them are met, it grants a value and changes the
registry; otherwise it ends with a fault of the first that is not met, and the registry is as it
was. -/
inductive Decided (registry : Registry) (demands : List Demand) (grants : α → Registry → Prop) :
    Except Fault α × Registry → Prop
  | granted {value after} : (∀ demand ∈ demands, demand.met) → grants value after →
      Decided registry demands grants (.ok value, after)
  | refused {earlier demand later fault} : demands = earlier ++ demand :: later →
      (∀ other ∈ earlier, other.met) → ¬ demand.met → demand.refusal fault →
      Decided registry demands grants (.error fault, registry)

abbrev Attempt := ExceptT Fault (StateM Registry)

namespace Attempt

def on (attempt : Attempt α) (registry : Registry) : Except Fault α × Registry :=
  attempt.run registry

def read : Attempt Registry :=
  MonadState.get

def check (met : Prop) [Decidable met] (fault : Fault) : Attempt Unit :=
  if met then pure () else throw fault

def demand (value : Option α) (fault : Fault) : Attempt α :=
  match value with
  | some value => pure value
  | none => throw fault

def compile (ignoreCase : Bool) (rule : Text) : Attempt Pattern.Compiled :=
  match Pattern.compile ignoreCase rule with
  | .ok compiled => pure compiled
  | .error cause => throw (.ruleInvalid rule cause)

def register (patternType : Datum) (rule : Option Text) (validator : Option Validator)
    (requiresZeroTrust : Option Bool) : Attempt State := do
  let registry ← read
  let text := rule.getD []
  check (text ≠ []) (.ruleMissing patternType)
  check (registry.states.length < registry.limits.states) (.statesFull registry.limits.states)
  check (text.length ≤ registry.limits.ruleLength)
    (.ruleTooLong registry.limits.ruleLength text.length)
  let known ← demand (PatternType.ofDatum? patternType) (.patternTypeUnknown patternType)
  let _ ← compile registry.ignoreCase text
  let state := registry.newState known text validator requiresZeroTrust
  modify fun registry => { registry with states := registry.states ++ [state] }
  return state

def addTransition (source target : Int) (symbol : Datum) (weight : Amount)
    (validator : Option Validator) : Attempt Transition := do
  let registry ← read
  check (registry.isKnown source) (.stateUnknown source)
  check (registry.isKnown target) (.stateUnknown target)
  let c ← demand (symbol? symbol) (.symbolNotSingle symbol)
  check (weight.isNegative = false) (.weightNegative weight)
  check (registry.transitions.length < registry.limits.transitions)
    (.transitionsFull registry.limits.transitions)
  let transition : Transition := { source, target, symbol := c, weight, validator }
  modify fun registry => { registry with transitions := registry.transitions ++ [transition] }
  modify fun registry =>
    { registry with
      states := registry.states.modify source.toNat fun state =>
        { state with transitionCount := state.transitionCount + 1 } }
  return transition

variable {α β : Type} {registry : Registry}

end Attempt

namespace Decided

variable {α : Type} {registry : Registry} {demands : List Demand} {demand : Demand}
  {grants : α → Registry → Prop} {outcome : Except Fault α × Registry}

theorem nil {value : α} {after : Registry} (granted : grants value after) :
    registry.Decided [] grants (.ok value, after) :=
  .granted (fun _ member => nomatch member) granted

theorem cons (unmet : ¬ demand.met → ∃ fault, demand.refusal fault ∧
      outcome = (.error fault, registry))
    (met : demand.met → registry.Decided demands grants outcome) :
    registry.Decided (demand :: demands) grants outcome := by
  by_cases holds : demand.met
  · cases met holds with
    | granted all granted => exact .granted (List.forall_mem_cons.mpr ⟨holds, all⟩) granted
    | refused shape all failing refusal =>
        exact .refused (congrArg (demand :: ·) shape) (List.forall_mem_cons.mpr ⟨holds, all⟩)
          failing refusal
  · obtain ⟨fault, refusal, rfl⟩ := unmet holds
    have shape : demand :: demands = [] ++ demand :: demands := rfl
    exact .refused shape (fun _ member => nomatch member) holds refusal

theorem check {met : Prop} [Decidable met] {fault : Fault} (same : demand.met ↔ met)
    (refusal : demand.refusal fault) (rest : met → registry.Decided demands grants outcome) :
    registry.Decided (demand :: demands) grants
      (if met then outcome else (.error fault, registry)) := by
  refine cons (fun unmet => ⟨fault, refusal, if_neg (mt same.mpr unmet)⟩) fun holds => ?_
  rw [if_pos (same.mp holds)]
  exact rest (same.mp holds)

end Decided

variable {registry : Registry}

end Registry

end ProtocolGate
