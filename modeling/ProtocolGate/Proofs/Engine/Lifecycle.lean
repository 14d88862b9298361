import ProtocolGate.Proofs.Engine.Independence

/-!
The life of an engine. After any run an engine is new, or it is what its latest start opened: the
header is its first state, every other state has the mark of that start, it stands at one of its
states, and its tables are within their bounds.
-/

namespace ProtocolGate

def Event.mode? : Event → Option Bool
  | .started zeroTrust => some zeroTrust
  | _ => none

def latestMode (events : List Event) : Option Bool :=
  events.reverse.findSome? Event.mode?

@[simp] theorem latestMode_append (events : List Event) (event : Event) :
    latestMode (events ++ [event]) = event.mode?.or (latestMode events) := by
  simp only [latestMode, List.reverse_append, List.reverse_singleton, List.singleton_append,
    List.findSome?_cons]
  cases event.mode? <;> rfl

namespace Engine

theorem started_configured (config : Config) (zeroTrust : Bool) :
    (started config zeroTrust).Configured config :=
  ⟨rfl, rfl, rfl, rfl, rfl⟩

theorem started_opened (config : Config) (zeroTrust : Bool) :
    (started config zeroTrust).registry.Opened headerState := by
  refine ⟨⟨0, [], rfl, by simp⟩, ?_, ?_, ?_⟩
  · intro index state found
    obtain ⟨bound, rfl⟩ := List.getElem?_eq_some_iff.mp found
    have first : index = 0 := Nat.lt_one_iff.mp bound
    subst first
    rfl
  · have := config.one_le_maxStates
    change (1 : Int) ≤ config.maxStates
    omega
  · change (0 : Int) ≤ config.maxTransitions
    omega

/-- An engine that is in use, after the given events. -/
structure Live (config : Config) (events : List Event) (engine : Engine) : Prop where
  configured : engine.Configured config
  initialized : engine.initialized = true
  mode : latestMode events = some engine.zeroTrust
  opened : engine.registry.Opened headerState
  current : ∃ state ∈ engine.registry.states, state.id = engine.currentState

theorem started_live (config : Config) (events : List Event) (zeroTrust : Bool) :
    (started config zeroTrust).Live config (events ++ [.started zeroTrust]) :=
  ⟨started_configured config zeroTrust, rfl, latestMode_append events (.started zeroTrust),
    started_opened config zeroTrust, headerState, List.mem_singleton_self _, rfl⟩

theorem Live.holding {config : Config} {events : List Event} {engine : Engine}
    (live : engine.Live config events) (text : Text) : (engine.holding text).Live config events :=
  ⟨live.configured.holding text, live.initialized, live.mode, live.opened, live.current⟩

theorem Live.exists_initial {config : Config} {events : List Event} {engine : Engine}
    (live : engine.Live config events) :
    ∃ state ∈ engine.registry.states, state.id = initialState := by
  obtain ⟨count, others, shape, _⟩ := live.opened.states
  rw [shape]
  exact ⟨_, List.mem_cons_self, rfl⟩

theorem Step.live {config : Config} {events : List Event} {engine after : Engine} {event : Event}
    (room : StandardRule.header.length ≤ config.maxPatternLength) (step : Step engine event after)
    (live : engine.Live config events) :
    after = create config ∨ after.Live config (events ++ [event]) := by
  have configured := step.configured live.configured
  obtain rfl := live.configured.same
  cases step with
  | @started _ zeroTrust outcome =>
      obtain ⟨_, rfl⟩ := started_of_room room outcome
      exact .inr (started_live engine.config events zeroTrust)
  | startRefused outcome =>
      obtain ⟨refused, _⟩ := started_of_room room outcome
      contradiction
  | stopped => exact .inl rfl
  | registered _ registered =>
      have opened := live.opened.register registered
      obtain ⟨_, _, _, _, _, _, _, _, _, rfl⟩ := Registry.register_ok registered
      obtain ⟨state, member, here⟩ := live.current
      refine .inr ⟨configured, live.initialized, ?_, opened, state, ?_, here⟩
      · rw [latestMode_append]
        exact live.mode
      · exact List.mem_append_left _ member
  | @declared source _ _ _ _ _ _ _ declared =>
      have opened := live.opened.addTransition declared
      obtain ⟨_, _, _, _, _, _, _, rfl⟩ := Registry.addTransition_ok declared
      obtain ⟨state, member, here⟩ := live.current
      refine .inr ⟨configured, live.initialized, ?_, opened,
        Registry.countTransition source state, ?_, ?_⟩
      · rw [latestMode_append]
        exact live.mode
      · exact List.mem_map_of_mem member
      · rw [Registry.countTransition_id]
        exact here
  | @scanned _ outcome _ _ scanned _ =>
      refine .inr ⟨configured, live.initialized, ?_, live.opened, ?_⟩
      · rw [latestMode_append]
        exact live.mode
      · rcases scan_finalState scanned with first | found
        · obtain ⟨state, member, here⟩ := live.exists_initial
          exact ⟨state, member, here.trans first.symm⟩
        · exact found

theorem Step.of_create {config : Config} {events : List Event} {after : Engine} {event : Event}
    (room : StandardRule.header.length ≤ config.maxPatternLength)
    (step : Step (create config) event after) : after.Live config (events ++ [event]) := by
  cases step with
  | @started _ zeroTrust outcome =>
      obtain ⟨_, rfl⟩ := started_of_room room outcome
      exact started_live config events zeroTrust
  | startRefused outcome =>
      obtain ⟨refused, _⟩ := started_of_room room outcome
      contradiction
  | stopped live => contradiction
  | registered live => contradiction
  | declared live => contradiction
  | scanned live => contradiction

end Engine

namespace Session

open Engine

theorem run_new_or_live {config : Config}
    (room : StandardRule.header.length ≤ config.maxPatternLength) (operations : List Operation) :
    ((new config).run operations).engine = create config ∨
      ((new config).run operations).engine.Live config ((new config).history operations) := by
  -- Being in use is not kept by a stop, which makes the engine a new one; so both cases together are
  -- the invariant.
  have path := (new config).run_path operations
  refine path.invariant [] (fun events engine => engine = create config ∨
    engine.Live config events) ?_ ?_ (.inl rfl)
  · rintro events engine text initialized (rfl | live)
    · contradiction
    · exact .inr (live.holding text)
  · rintro events engine event after step (rfl | live)
    · exact .inr (step.of_create room)
    · exact step.live room live

theorem run_live {config : Config} {operations : List Operation}
    (initialized : ((new config).run operations).engine.initialized = true) :
    ((new config).run operations).engine.Live config ((new config).history operations) := by
  have room := room_of_initialized (reachable_run config operations) initialized
  rcases run_new_or_live room operations with fresh | live
  · rw [fresh] at initialized
    contradiction
  · exact live

def Operation.needsEngine : Operation → Bool
  | .start _ | .teardown | .enterScope | .leaveScopes | .config => false
  | _ => true

theorem registerStandard_idle {engine : Engine} (idle : engine.initialized = false)
    (includeHeader : Bool) :
    engine.registerStandard includeHeader = (.error .notInitialized, engine) := by
  have some : standardPatterns includeHeader ≠ [] := by
    cases includeHeader <;> decide +kernel
  obtain ⟨⟨patternType, rule⟩, others, shape⟩ := List.exists_cons_of_ne_nil some
  simp [registerStandard, shape, registerEach, Engine.register, idle]

theorem specification_idle {engine : Engine} (idle : engine.initialized = false) :
    engine.specification = .error (.fault .notInitialized) := by
  have unpriced : engine.cost = .error .notInitialized := by simp [Engine.cost, idle]
  rw [Engine.specification, unpriced]
  rfl

theorem exportAs_idle {engine : Engine} (idle : engine.initialized = false) (format : Datum) :
    engine.exportAs format = .error (.fault .notInitialized) := by
  rw [Engine.exportAs, specification_idle idle]
  rfl

theorem perform_idle {session : Session} {operation : Operation}
    (idle : session.engine.initialized = false) (needs : operation.needsEngine = true) :
    session.perform operation = (.error (.fault .notInitialized), session) := by
  cases operation with
  | start | teardown | enterScope | leaveScopes | config => contradiction
  | registerStandard includeHeader =>
      simp [perform, registerStandard_idle idle, advance, answer]
  | register => simp [perform, Engine.register, idle, advance, answer]
  | addTransition => simp [perform, Engine.addTransition, idle, advance, answer]
  | normalize => simp [perform, Engine.normalize, idle, advance, answer]
  | equivalent => simp [perform, Engine.equivalent, idle, advance, answer]
  | requireEquivalent => simp [perform, Engine.requireEquivalent, idle, advance, answer]
  | process => simp [perform, Engine.process, idle, Except.map]
  | validate => simp [perform, Engine.validate, Engine.process, idle, Except.map, Except.bind]
  | cost => simp [perform, Engine.cost, idle, answer]
  | zone => simp [perform, Engine.zone, Engine.cost, idle, answer, Except.map]
  | states => simp [perform, Engine.states, idle, answer]
  | specification => simp [perform, specification_idle idle, Except.map]
  | exportAs => simp [perform, exportAs_idle idle, Except.map]

/-- After any run of operations, with failures and raising validators among them, an engine that is
not initialised has no mark, no position and no cost, and refuses whatever needs one that is. An
engine that is initialised has the header as its first state and the mark of the latest start, on
itself and on every other state; it stands at a registered state, and its tables are within their
bounds. Any further start gives the engine that starting a new one gives. -/
theorem run_lifecycle {config : Config}
    (room : StandardRule.header.length ≤ config.maxPatternLength) (operations : List Operation) :
    let session := (new config).run operations
    let engine := session.engine
    (engine.initialized = false →
      engine.zeroTrust = false ∧ engine.currentState = 0 ∧ engine.accumulated = 0 ∧
      ∀ operation : Operation, operation.needsEngine = true →
        session.perform operation = (.error (.fault .notInitialized), session)) ∧
    (engine.initialized = true →
      ∃ mode count others, latestMode ((new config).history operations) = some mode ∧
        engine.zeroTrust = mode ∧
        engine.registry.states =
          { id := 0, patternType := .protocolHeader, rule := StandardRule.header
            accepting := false, requiresZeroTrust := true, transitionCount := count } :: others ∧
        (∀ state ∈ others, state.requiresZeroTrust = mode) ∧
        (∀ (index : Nat) (state : State),
          engine.registry.states[index]? = some state → state.id = index) ∧
        (∃ state ∈ engine.registry.states, state.id = engine.currentState) ∧
        engine.registry.states.length ≤ config.maxStates ∧
        engine.registry.transitions.length ≤ config.maxTransitions) ∧
    ∀ mode, engine.start mode = (.ok (), started config mode) ∧
      (create config).start mode = (.ok (), started config mode) := by
  intro session engine
  have starts {engine : Engine} (same : engine.config = config) (mode : Bool) :
      engine.start mode = (.ok (), started config mode) := by
    rw [start_eq, same, if_pos room]
  have configured : engine.config = config := (reachable_run config operations).config
  have state := run_new_or_live room operations
  refine ⟨fun idle => ?_, fun initialized => ?_,
    fun mode => ⟨starts configured mode, starts rfl mode⟩⟩
  · rcases state with fresh | live
    · refine ⟨?_, ?_, ?_, fun operation needs => perform_idle idle needs⟩
      · exact congrArg Engine.zeroTrust fresh
      · exact congrArg Engine.currentState fresh
      · exact congrArg Engine.accumulated fresh
    · rw [live.initialized] at idle
      contradiction
  · rcases state with fresh | live
    · have idle := congrArg Engine.initialized fresh
      rw [initialized] at idle
      contradiction
    · obtain ⟨count, others, shape, stamps⟩ := live.opened.states
      have statesBound := live.opened.states_le
      have transitionsBound := live.opened.transitions_le
      rw [live.configured.limits] at statesBound transitionsBound
      refine ⟨engine.zeroTrust, count, others, live.mode, rfl, shape, ?_, live.opened.ids,
        live.current, Int.ofNat_le.mp statesBound, Int.ofNat_le.mp transitionsBound⟩
      intro state member
      rw [stamps state member]
      exact live.configured.stamp

@[irreducible]
def eventfulRun : List Operation :=
  [.start false, .register (.text "data_payload".toList) (some ['(']) none,
    .register (.text "data_payload".toList) (some ['a']) (some fun _ => .error "no".toList),
    .process (.text ['a']), .teardown, .enterScope,
    .register (.text "audit_marker".toList) (some ['b']) none, .validate (.text ['b'])]

theorem run_lifecycle_eventful :
    StandardRule.header.length ≤ ({} : Config).maxPatternLength ∧
    ((new {}).run eventfulRun).engine.currentState = 1 ∧
    latestMode ((new {}).history eventfulRun) = some true ∧
    ∃ count other, ((new {}).run eventfulRun).engine.registry.states =
      [{ headerState with transitionCount := count }, other] ∧ other.requiresZeroTrust = true := by
  have room : StandardRule.header.length ≤ ({} : Config).maxPatternLength := by
    decide +kernel
  obtain ⟨initialized, marked, position, two⟩ :
      ((new {}).run eventfulRun).engine.initialized = true ∧
      ((new {}).run eventfulRun).engine.zeroTrust = true ∧
      ((new {}).run eventfulRun).engine.currentState = 1 ∧
      ((new {}).run eventfulRun).engine.registry.states.length = 2 := by
    decide +kernel
  obtain ⟨mode, count, others, latest, same, shape, stamps, _⟩ :=
    (run_lifecycle room eventfulRun).2.1 initialized
  obtain rfl : true = mode := marked.symm.trans same
  rw [shape, List.length_cons] at two
  obtain ⟨other, rfl⟩ := List.length_eq_one_iff.mp (Nat.succ.inj two)
  exact ⟨room, position, latest, count, other, shape, stamps other (List.mem_singleton_self other)⟩

end Session

end ProtocolGate
