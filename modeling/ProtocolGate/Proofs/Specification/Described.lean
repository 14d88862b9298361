import ProtocolGate.Proofs.Decimal.Order
import ProtocolGate.Proofs.Engine.Gate
import ProtocolGate.Proofs.Engine.Lifecycle

/-!
What an engine specifies. The transitions of its registry are sorted out by the states that they
leave, and each of them is listed once. An initialised engine has a specification if floating-point
numbers stand for all its weights, and otherwise the attempt overflows, whatever the format.
-/

namespace ProtocolGate

/-! ## Regrouping -/

theorem flatMap_filter_perm {ids : List Int} (distinct : ids.Nodup)
    {transitions : List Transition} (known : ∀ transition ∈ transitions, transition.source ∈ ids) :
    (ids.flatMap fun id => transitions.filter fun transition => transition.source == id).Perm
      transitions := by
  induction ids generalizing transitions with
  | nil =>
      have none : transitions = [] := by
        apply List.eq_nil_iff_forall_not_mem.mpr
        intro transition member
        exact List.not_mem_nil (known transition member)
      simp [none]
  | cons id ids ih =>
      obtain ⟨fresh, distinct⟩ := List.nodup_cons.mp distinct
      -- What leaves the first source is not what any later one looks for.
      let others := transitions.filter fun transition => !(transition.source == id)
      have rest : (ids.flatMap fun other =>
          transitions.filter fun transition => transition.source == other) =
          ids.flatMap fun other =>
            others.filter fun transition => transition.source == other := by
        apply List.flatMap_congr
        intro other member
        rw [List.filter_filter]
        apply List.filter_congr
        intro transition _
        by_cases here : transition.source = other
        · have different : other ≠ id := by
            rintro rfl
            exact fresh member
          simp [here, different]
        · simp [here]
      have later : ∀ transition ∈ others, transition.source ∈ ids := by
        intro transition member
        obtain ⟨listed, different⟩ := List.mem_filter.mp member
        have other : transition.source ≠ id := by simpa using different
        exact (List.mem_cons.mp (known transition listed)).resolve_left other
      rw [List.flatMap_cons, rest]
      exact ((ih distinct later).append_left _).trans (List.filter_append_perm _ transitions)

/-- Every transition leaves a registered state, so it is sorted out under that state, once. -/
theorem Registry.Consistent.transitionsFrom_perm {registry : Registry}
    (consistent : registry.Consistent) :
    (registry.states.flatMap fun state => registry.transitionsFrom state.id).Perm
      registry.transitions := by
  have known : ∀ transition ∈ registry.transitions,
      transition.source ∈ registry.states.map State.id := by
    intro transition member
    have inside := Registry.isKnown_iff.mp (consistent.endpoints transition member).1
    obtain ⟨state, listed, same⟩ := consistent.numbered.exists_id inside
    exact List.mem_map.mpr ⟨state, listed, same⟩
  have grouped := flatMap_filter_perm consistent.numbered.nodup known
  rwa [List.flatMap_map] at grouped

/-! ## Weights -/

/-- A floating-point number stands for the amount. -/
def Amount.fits : Amount → Bool
  | whole value => value.natAbs < Decimal.wholeLimit
  | float _ => true

theorem Amount.isSome_toFloat? (amount : Amount) : amount.toFloat?.isSome = amount.fits := by
  cases amount with
  | whole value => exact Decimal.isSome_ofInt? value
  | float value => rfl

/-- Floating-point numbers stand for all weights of an engine. -/
def Engine.WeightsFit (engine : Engine) : Prop :=
  ∀ transition ∈ engine.registry.transitions, transition.weight.fits = true

instance (engine : Engine) : Decidable engine.WeightsFit :=
  inferInstanceAs (Decidable (∀ transition ∈ engine.registry.transitions,
    transition.weight.fits = true))

namespace Specification

/-- A transition as it is listed. Weight 0 is a filler that no document shows. -/
def TransitionEntry.ofTransition (transition : Transition) : TransitionEntry where
  target := transition.target
  symbol := transition.symbol
  weight := transition.weight.toFloat?.getD 0

def StateEntry.ofState (registry : Registry) (state : State) : StateEntry where
  id := state.id
  patternType := state.patternType
  rule := state.rule
  isInitial := state.id == Engine.initialState
  isAccepting := state.accepting
  requiresZeroTrust := state.requiresZeroTrust
  hasValidator := state.validator.isSome
  transitions := (registry.transitionsFrom state.id).map TransitionEntry.ofTransition

theorem mapM_guarded {α β : Type} {convert? : α → Option β} {convert : α → β} {sound : α → Bool}
    (guarded : ∀ item, convert? item = if sound item then some (convert item) else none)
    (items : List α) :
    items.mapM convert? = if items.all sound then some (items.map convert) else none := by
  induction items with
  | nil => rfl
  | cons item items ih =>
      rw [List.mapM_cons, guarded, ih, List.all_cons]
      cases sound item <;> cases items.all sound <;> rfl

theorem TransitionEntry.ofTransition?_eq (transition : Transition) :
    ofTransition? transition =
      if transition.weight.fits then some (ofTransition transition) else none := by
  rw [← Amount.isSome_toFloat?, ofTransition?, ofTransition]
  cases transition.weight.toFloat? <;> rfl

theorem StateEntry.ofState?_eq (registry : Registry) (state : State) :
    ofState? registry state =
      if (registry.transitionsFrom state.id).all (·.weight.fits) then
        some (ofState registry state)
      else none := by
  rw [ofState?, mapM_guarded TransitionEntry.ofTransition?_eq]
  split <;> rfl

theorem all_transitionsFrom {registry : Registry} (consistent : registry.Consistent)
    (sound : Transition → Bool) :
    (registry.states.all fun state => (registry.transitionsFrom state.id).all sound) =
      registry.transitions.all sound := by
  rw [← consistent.transitionsFrom_perm.all_eq, List.all_flatMap]

theorem mapM_ofState? {engine : Engine} (consistent : engine.registry.Consistent) :
    engine.registry.states.mapM (StateEntry.ofState? engine.registry) =
      if engine.WeightsFit then
        some (engine.registry.states.map (StateEntry.ofState engine.registry))
      else none := by
  rw [mapM_guarded (StateEntry.ofState?_eq engine.registry), all_transitionsFrom consistent]
  exact if_congr List.all_eq_true rfl rfl

end Specification

def Engine.described (engine : Engine) : Specification :=
  let policy := engine.context.policy
  let cost := Governance.cost engine.accumulated engine.registry.states.length
    engine.registry.transitions.length engine.zeroTrust
  { zeroTrust := engine.zeroTrust
    encodingNormalize := policy.encodingNormalize
    caseFold := policy.caseFold
    whitespaceCollapse := policy.whitespaceCollapse
    limits := engine.registry.limits
    bufferSize := engine.context.bufferSize
    autonomousThreshold := engine.config.autonomousThreshold
    warningThreshold := engine.config.warningThreshold
    cost
    zone := Governance.zone cost engine.config.autonomousThreshold engine.config.warningThreshold
    rewrites := Specification.RewriteEntry.ofTable policy.table
    states := engine.registry.states.map (Specification.StateEntry.ofState engine.registry) }

namespace Engine

open Specification

variable {engine : Engine}

theorem cost_of_initialized (live : engine.initialized = true) :
    engine.cost = .ok engine.described.cost :=
  if_pos live

theorem specification_of_initialized (live : engine.initialized = true)
    (consistent : engine.registry.Consistent) :
    engine.specification =
      if engine.WeightsFit then .ok engine.described else .error .overflow := by
  simp only [specification, zone, cost_of_initialized live, mapM_ofState? consistent]
  split <;> rfl

theorem exportAs_of_initialized (live : engine.initialized = true)
    (consistent : engine.registry.Consistent) (format : Datum) :
    engine.exportAs format =
      if engine.WeightsFit then
        ((Format.ofDatum format).mapError .fault).map engine.described.render
      else .error .overflow := by
  rw [exportAs, specification_of_initialized live consistent]
  split
  · cases Format.ofDatum format <;> rfl
  · rfl

theorem initialized_of_exportAs {format : Datum} {text : Text}
    (exported : engine.exportAs format = .ok text) : engine.initialized = true := by
  cases live : engine.initialized with
  | true => rfl
  | false =>
      rw [Session.exportAs_idle live] at exported
      contradiction

end Engine

end ProtocolGate
