import ProtocolGate.Proofs.Specification.Described

/-!
The specification of an engine as a regrouping of its registry. The registry keeps the transitions
in one row, the specification lists each of them under the state that it leaves. Ids are places and
every transition leaves a registered state, so no transition is lost, and none is listed twice. A
registry takes any weight that is not negative, and one that no floating-point number stands for
leaves the engine without a specification.
-/

namespace ProtocolGate

/-! ## What has been declared -/

def Event.declare (transitions : List Transition) : Event → List Transition
  | .started _ => []
  | .declared transition => transitions ++ [transition]
  | _ => transitions

def declarations (events : List Event) : List Transition :=
  events.foldl Event.declare []

theorem declarations_append (events : List Event) (event : Event) :
    declarations (events ++ [event]) = event.declare (declarations events) := by
  simp only [declarations, List.foldl_append, List.foldl_cons, List.foldl_nil]

namespace Engine

structure Declared (config : Config) (events : List Event) (engine : Engine) : Prop where
  configured : engine.Configured config
  transitions : engine.initialized = true → engine.registry.transitions = declarations events

theorem Step.declares {config : Config} {events : List Event} {engine after : Engine}
    {event : Event} (room : StandardRule.header.length ≤ config.maxPatternLength)
    (step : Step engine event after) (before : engine.Declared config events) :
    after.Declared config (events ++ [event]) := by
  refine ⟨step.configured before.configured, fun initialized => ?_⟩
  obtain rfl := before.configured.same
  rw [declarations_append]
  cases step with
  | started outcome =>
      obtain ⟨_, rfl⟩ := started_of_room room outcome
      rfl
  | startRefused outcome =>
      obtain ⟨refused, _⟩ := started_of_room room outcome
      contradiction
  | stopped => contradiction
  | registered live registered =>
      obtain ⟨_, _, _, _, _, _, _, _, _, rfl⟩ := Registry.register_ok registered
      exact before.transitions live
  | declared live declared =>
      obtain ⟨_, _, _, _, _, _, _, rfl⟩ := Registry.addTransition_ok declared
      rw [Event.declare, ← before.transitions live]
  | scanned live => exact before.transitions live

end Engine

theorem Session.run_declared {config : Config} {operations : List Operation}
    (live : ((new config).run operations).engine.initialized = true) :
    ((new config).run operations).engine.registry.transitions =
      declarations ((new config).history operations) := by
  have room := room_of_initialized (reachable_run config operations) live
  have declared : ((new config).run operations).engine.Declared config
      ((new config).history operations) := by
    refine ((new config).run_path operations).invariant [] (fun events engine =>
      engine.Declared config events) ?_ ?_
      ⟨Engine.create_configured config, fun _ => by contradiction⟩
    · intro events engine text _ before
      exact ⟨before.configured.holding text, before.transitions⟩
    · intro events engine event after step before
      exact step.declares room before
  exact declared.transitions live

/-! ## Regrouping -/

namespace Specification

/-- An entry shows the state at a place, with what has been declared to leave it. -/
structure StateEntry.Shows (entry : StateEntry) (index : Nat) (state : State)
    (declared : List Transition) : Prop where
  id : entry.id = index
  patternType : entry.patternType = state.patternType
  rule : entry.rule = state.rule
  isInitial : entry.isInitial = decide (index = 0)
  isAccepting : entry.isAccepting = state.accepting
  requiresZeroTrust : entry.requiresZeroTrust = state.requiresZeroTrust
  hasValidator : entry.hasValidator = state.validator.isSome
  transitions : entry.transitions.map some =
    (declared.filter fun transition => transition.source == (index : Int)).map
      TransitionEntry.ofTransition?
  count : (entry.transitions.length : Int) = state.transitionCount

def listed (specification : Specification) : List (Int × TransitionEntry) :=
  specification.states.flatMap fun entry =>
    entry.transitions.map fun transition => (entry.id, transition)

/-- The states and the transitions of a specification are those of a registry. -/
structure Regroups (specification : Specification) (registry : Registry) : Prop where
  length : specification.states.length = registry.states.length
  shows : ∀ (index : Nat) (state : State), registry.states[index]? = some state →
    ∃ entry, specification.states[index]? = some entry ∧
      entry.Shows index state registry.transitions
  initial : specification.states.countP StateEntry.isInitial = 1
  perm : (specification.listed.map fun (source, entry) => (source, some entry)).Perm
    (registry.transitions.map fun transition =>
      (transition.source, TransitionEntry.ofTransition? transition))
  total : (specification.states.map fun entry => entry.transitions.length).sum =
    registry.transitions.length

variable {registry : Registry}

theorem map_ofTransition (transitions : List Transition)
    (fits : ∀ transition ∈ transitions, transition.weight.fits = true) :
    (transitions.map TransitionEntry.ofTransition).map some =
      transitions.map TransitionEntry.ofTransition? := by
  rw [List.map_map]
  apply List.map_congr_left
  intro transition member
  rw [TransitionEntry.ofTransition?_eq, if_pos (fits transition member)]
  rfl

theorem ofState_shows (consistent : registry.Consistent)
    (fits : ∀ transition ∈ registry.transitions, transition.weight.fits = true) {index : Nat}
    {state : State} (found : registry.states[index]? = some state) :
    (StateEntry.ofState registry state).Shows index state registry.transitions := by
  have place := consistent.numbered index state found
  have count := consistent.counts state (List.mem_of_getElem? found)
  refine ⟨place, rfl, rfl, ?_, rfl, rfl, rfl, ?_, ?_⟩
  · rw [Bool.eq_iff_iff]
    simp [StateEntry.ofState, Engine.initialState, place]
  · have leaving : ∀ transition ∈ registry.transitionsFrom index, transition.weight.fits = true :=
      fun transition member => fits transition (List.mem_filter.mp member).1
    rw [StateEntry.ofState, place]
    exact map_ofTransition _ leaving
  · simp [StateEntry.ofState, count]

theorem ofState_initial (consistent : registry.Consistent) (nonempty : registry.states ≠ []) :
    (registry.states.map (StateEntry.ofState registry)).countP StateEntry.isInitial = 1 := by
  have positive := List.length_pos_iff.mpr nonempty
  have one := Registry.countP_id 0 Engine.initialState fun index state found => by
    rw [consistent.numbered index state found]
    omega
  rw [if_pos (by simp [Engine.initialState, positive])] at one
  rw [List.countP_map]
  exact one

theorem ofState_listed (registry : Registry) (states : List State) :
    ((states.map (StateEntry.ofState registry)).flatMap fun entry =>
        entry.transitions.map fun transition => (entry.id, transition)) =
      (states.flatMap fun state => registry.transitionsFrom state.id).map fun transition =>
        (transition.source, TransitionEntry.ofTransition transition) := by
  rw [List.flatMap_map, List.map_flatMap]
  apply List.flatMap_congr
  intro state _
  rw [StateEntry.ofState, List.map_map]
  apply List.map_congr_left
  intro transition member
  have leaves : transition.source = state.id := by simpa using (List.mem_filter.mp member).2
  rw [Function.comp, leaves]

theorem described_regroups {engine : Engine} (consistent : engine.registry.Consistent)
    (fits : engine.WeightsFit) (nonempty : engine.registry.states ≠ []) :
    engine.described.Regroups engine.registry := by
  have perm : engine.described.listed.Perm (engine.registry.transitions.map fun transition =>
      (transition.source, TransitionEntry.ofTransition transition)) := by
    have grouped := consistent.transitionsFrom_perm.map fun transition =>
      (transition.source, TransitionEntry.ofTransition transition)
    rwa [← ofState_listed] at grouped
  refine ⟨List.length_map _, ?_, ofState_initial consistent nonempty, ?_, ?_⟩
  · intro index state found
    refine ⟨StateEntry.ofState engine.registry state, ?_, ofState_shows consistent fits found⟩
    rw [Engine.described, List.getElem?_map, found]
    rfl
  · refine (perm.map _).trans (List.Perm.of_eq ?_)
    rw [List.map_map]
    apply List.map_congr_left
    intro transition declared
    rw [TransitionEntry.ofTransition?_eq, if_pos (fits transition declared)]
    rfl
  · have length := perm.length_eq
    rw [List.length_map] at length
    rw [← length, listed, List.length_flatMap]
    simp

theorem Format.ofDatum_cases (format : Datum) :
    (∃ known, ofDatum format = .ok known) ∨
      ofDatum format = .error (.formatUnknown format (all.map name)) := by
  unfold ofDatum
  split
  · rename_i known _
    exact .inl ⟨known, rfl⟩
  · exact .inr rfl

end Specification

/-! ## Snapshots -/

namespace Session

open Specification

theorem perform_exportAs {session : Session} (live : session.engine.initialized = true)
    (consistent : session.engine.registry.Consistent) (fits : session.engine.WeightsFit)
    (format : Datum) :
    (∃ known, Format.ofDatum format = .ok known ∧
      session.perform (.exportAs format) =
        (.ok (.text (session.engine.described.render known)), session)) ∨
    (Format.ofDatum format = .error (.formatUnknown format (Format.all.map Format.name)) ∧
      session.perform (.exportAs format) =
        (.error (.fault (.formatUnknown format (Format.all.map Format.name))), session)) := by
  rw [perform, Engine.exportAs_of_initialized live consistent, if_pos fits]
  rcases Format.ofDatum_cases format with ⟨known, named⟩ | refused
  · left
    refine ⟨known, named, ?_⟩
    rw [named]
    rfl
  · right
    refine ⟨refused, ?_⟩
    rw [refused]
    rfl

/-- The specification of an engine in use. Its states are the header and what has been registered
since the latest start, in that order; each of them lists, in the order of their declaration, the
declared transitions that leave it, as many as it counts. So every declared transition is listed
once. The zone is that of the cost under both thresholds. Neither the specification nor its text in
any format changes the session, nor does a format that is unknown. All of this asks that
floating-point numbers stand for the declared weights; if there is none for one of them, neither the
specification nor any text of it is to be had. -/
theorem specification_regroups {config : Config} {operations : List Operation}
    (initialized : ((new config).run operations).engine.initialized = true) :
    let session := (new config).run operations
    let engine := session.engine
    let events := (new config).history operations
    engine.registry.states.map State.unmarked = Engine.statesAfter events ∧
    engine.registry.transitions = declarations events ∧
    (engine.WeightsFit →
      ∃ specification : Specification,
        session.perform .specification = (.ok (.specification specification), session) ∧
        specification.Regroups engine.registry ∧
        engine.cost = .ok specification.cost ∧
        specification.autonomousThreshold = config.autonomousThreshold ∧
        specification.warningThreshold = config.warningThreshold ∧
        specification.zone = Governance.zone specification.cost specification.autonomousThreshold
          specification.warningThreshold ∧
        ∀ format,
          (∃ known, Format.ofDatum format = .ok known ∧
            session.perform (.exportAs format) =
              (.ok (.text (specification.render known)), session)) ∨
          (Format.ofDatum format = .error (.formatUnknown format (Format.all.map Format.name)) ∧
            session.perform (.exportAs format) =
              (.error (.fault (.formatUnknown format (Format.all.map Format.name))), session))) ∧
    (¬ engine.WeightsFit →
      session.perform .specification = (.error .overflow, session) ∧
      ∀ format, session.perform (.exportAs format) = (.error .overflow, session)) := by
  intro session engine events
  have reachable : Reachable config session := reachable_run config operations
  have consistent : engine.registry.Consistent := reachable.consistent
  have nonempty : engine.registry.states ≠ [] := by
    obtain ⟨count, others, shape, _⟩ := (run_live initialized).opened.states
    rw [shape]
    exact List.cons_ne_nil _ _
  have specified := Engine.specification_of_initialized initialized consistent
  refine ⟨(run_traced operations initialized).states initialized, run_declared initialized, ?_, ?_⟩
  · intro fits
    rw [if_pos fits] at specified
    refine ⟨engine.described, ?_, described_regroups consistent fits nonempty,
      Engine.cost_of_initialized initialized, ?_, ?_, rfl,
      perform_exportAs initialized consistent fits⟩
    · rw [perform, specified]
      rfl
    · rw [Engine.described, reachable.config]
    · rw [Engine.described, reachable.config]
  · intro heavy
    rw [if_neg heavy] at specified
    refine ⟨?_, fun format => ?_⟩
    · rw [perform, specified]
      rfl
    · rw [perform, Engine.exportAs_of_initialized initialized consistent, if_neg heavy]
      rfl

@[irreducible]
def branchingRun : List Operation :=
  [.start false, .register (.text "data_payload".toList) (some ['a']) none,
    .addTransition 1 0 (.text ['x']) (.float 0.5) none,
    .addTransition 0 1 (.text ['y']) (.float 0.25) none,
    .addTransition 1 1 (.text ['z']) (.float 2) none]

@[irreducible]
def heavyRun : List Operation :=
  [.start true, .addTransition 0 0 (.text ['x']) (.whole (10 ^ 309)) none]

theorem specification_regroups_branching :
    (∃ specification : Specification,
      ((new {}).run branchingRun).perform .specification =
        (.ok (.specification specification), (new {}).run branchingRun) ∧
      (specification.states.map fun entry => entry.transitions.length).sum = 3 ∧
      (∃ entry, specification.states[1]? = some entry ∧
        entry.transitions.map TransitionEntry.symbol = ['x', 'z']) ∧
      ((new {}).run branchingRun).perform (.exportAs (.text "toml".toList)) =
        (.error (.fault (.formatUnknown (.text "toml".toList) ["yaml", "json", "header"])),
          (new {}).run branchingRun)) ∧
    ((new {}).run heavyRun).engine.registry.transitions.length = 1 ∧
    ((new {}).run heavyRun).perform .specification =
      (.error .overflow, (new {}).run heavyRun) := by
  obtain ⟨⟨initialized, fits⟩, two, three, symbols⟩ :
      (((new {}).run branchingRun).engine.initialized = true ∧
        ((new {}).run branchingRun).engine.WeightsFit) ∧
      (((new {}).run branchingRun).engine.registry.states[1]?).isSome = true ∧
      ((new {}).run branchingRun).engine.registry.transitions.length = 3 ∧
      (((((new {}).run branchingRun).engine.registry.transitions.filter fun transition =>
        transition.source == 1).map TransitionEntry.ofTransition?).map
          (Option.map TransitionEntry.symbol)) = [some 'x', some 'z'] := by
    decide +kernel
  obtain ⟨second, found⟩ := Option.isSome_iff_exists.mp two
  obtain ⟨_, _, fitting, _⟩ := specification_regroups initialized
  obtain ⟨specification, performed, regroups, _, _, _, _, exported⟩ := fitting fits
  obtain ⟨entry, listed, shows⟩ := regroups.shows 1 second found
  have shown : entry.transitions.map TransitionEntry.symbol = ['x', 'z'] := by
    have named := congrArg (List.map (Option.map TransitionEntry.symbol)) shows.transitions
    rw [List.map_map] at named
    apply List.map_injective_iff.mpr (Option.some_injective Char)
    rw [List.map_map]
    exact named.trans symbols
  obtain ⟨live, single, heavy⟩ :
      ((new {}).run heavyRun).engine.initialized = true ∧
      ((new {}).run heavyRun).engine.registry.transitions.length = 1 ∧
      ¬ ((new {}).run heavyRun).engine.WeightsFit := by
    decide +kernel
  obtain ⟨_, _, _, overflowing⟩ := specification_regroups live
  refine ⟨⟨specification, performed, regroups.total.trans three, ⟨entry, listed, shown⟩, ?_⟩,
    single, (overflowing heavy).1⟩
  rcases exported (.text "toml".toList) with ⟨known, named, _⟩ | ⟨_, refused⟩
  · have unknown : (Format.ofDatum (.text "toml".toList)).toOption = none := by
      decide +kernel
    rw [named] at unknown
    contradiction
  · exact refused

end Session

end ProtocolGate
