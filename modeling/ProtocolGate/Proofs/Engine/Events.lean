import ProtocolGate.Engine.Session
import ProtocolGate.Proofs.Canonical.Equivalence

/-!
What happens to an engine. Every operation of a session stands for a list of events, read off its
answers. An engine changes by these events alone, apart from the text in its holding area, and what
an event changes is said once, as a step.
-/

namespace ProtocolGate

structure Registration where
  patternType : Datum
  rule : Option Text
  validator : Option Validator

inductive Event where
  | started (zeroTrust : Bool)
  | startRefused (zeroTrust : Bool)
  | stopped
  | registered (registration : Registration)
  | declared (transition : Transition)
  | scanned (outcome : ScanOutcome)

def Event.ofResult (result : Except ε α) (event : α → Event) : List Event :=
  match result with
  | .ok value => [event value]
  | .error _ => []

namespace Engine

def holding (engine : Engine) (held : Text) : Engine :=
  { engine with context := engine.context.holding held }

inductive Step : Engine → Event → Engine → Prop
  | started {engine after : Engine} {zeroTrust : Bool} :
      engine.start zeroTrust = (.ok (), after) → Step engine (.started zeroTrust) after
  | startRefused {engine after : Engine} {zeroTrust : Bool} {fault : Fault} :
      engine.start zeroTrust = (.error fault, after) →
      Step engine (.startRefused zeroTrust) after
  | stopped {engine : Engine} : engine.initialized = true →
      Step engine .stopped (create engine.config)
  | registered {engine : Engine} {registration : Registration} {state : State}
      {registry : Registry} : engine.initialized = true →
      engine.registry.register registration.patternType registration.rule
        registration.validator = .ok (state, registry) →
      Step engine (.registered registration) { engine with registry }
  | declared {engine : Engine} {source target : Int} {symbol : Datum} {weight : Amount}
      {validator : Option Validator} {transition : Transition} {registry : Registry} :
      engine.initialized = true →
      engine.registry.addTransition source target symbol weight validator =
        .ok (transition, registry) →
      Step engine (.declared transition) { engine with registry }
  | scanned {engine : Engine} {form : Canonical.Form} {outcome : ScanOutcome}
      {accumulated : Float} : engine.initialized = true →
      scan engine.registry.ignoreCase form engine.registry.states initialState = .ok outcome →
      Governance.charge engine.accumulated (.float outcome.cost) = .ok accumulated →
      Step engine (.scanned outcome)
        { engine with accumulated, currentState := outcome.finalState }

/-- Steps one after the other; between them an engine that is initialised may take another text into
its holding area. -/
inductive Path : Engine → List Event → Engine → Prop
  | done {engine : Engine} : Path engine [] engine
  | held {engine after : Engine} {events : List Event} (text : Text) :
      engine.initialized = true → Path (engine.holding text) events after →
      Path engine events after
  | step {engine middle after : Engine} {event : Event} {events : List Event} :
      Step engine event middle → Path middle events after → Path engine (event :: events) after

namespace Path

theorem single {engine after : Engine} {event : Event} (step : Step engine event after) :
    Path engine [event] after :=
  .step step .done

theorem ofHeld {engine : Engine} (live : engine.initialized = true) (held : Text) :
    Path engine [] (engine.holding held) :=
  .held held live .done

theorem append {first second third : Engine} {earlier later : List Event}
    (left : Path first earlier second) (right : Path second later third) :
    Path first (earlier ++ later) third := by
  induction left with
  | done => exact right
  | held text live _ ih => exact .held text live (ih right)
  | step step _ ih => exact .step step (ih right)

theorem eq_holding {engine after : Engine} (path : Path engine [] after) :
    ∃ held, after = engine.holding held := by
  -- Induction on the path needs its events to be a variable.
  generalize none : ([] : List Event) = events at path
  induction path with
  | done => exact ⟨_, rfl⟩
  | held text _ _ ih =>
      obtain ⟨held, same⟩ := ih none
      exact ⟨held, same⟩
  | step => contradiction

/-- What each step keeps, given the events before it, holds at the end of a path. -/
theorem invariant {engine after : Engine} {events : List Event} (earlier : List Event)
    (holds : List Event → Engine → Prop)
    (holding : ∀ events engine text, engine.initialized = true → holds events engine →
      holds events (engine.holding text))
    (step : ∀ events engine event after, Step engine event after → holds events engine →
      holds (events ++ [event]) after)
    (path : Path engine events after) (before : holds earlier engine) :
    holds (earlier ++ events) after := by
  induction path generalizing earlier with
  | done => rwa [List.append_nil]
  | held text live _ ih => exact ih earlier (holding _ _ text live before)
  | step taken _ ih =>
      rw [List.append_cons]
      exact ih _ (step _ _ _ _ taken before)

end Path

def startEvents (engine : Engine) (zeroTrust : Bool) : List Event :=
  match (engine.start zeroTrust).1 with
  | .ok () => [.started zeroTrust]
  | .error _ => [.startRefused zeroTrust]

def registerEvents (engine : Engine) (patternType : Datum) (rule : Option Text)
    (validator : Option Validator) : List Event :=
  Event.ofResult (engine.register patternType rule validator).1 fun _ =>
    .registered { patternType, rule, validator }

def registerEachEvents (engine : Engine) : List (PatternType × Text) → List Event
  | [] => []
  | (patternType, rule) :: others =>
    match engine.register (.text patternType.name.toList) (some rule) none with
    | (.error _, _) => []
    | (.ok _, after) =>
      engine.registerEvents (.text patternType.name.toList) (some rule) none ++
        after.registerEachEvents others

theorem start_path (engine : Engine) (zeroTrust : Bool) :
    Path engine (engine.startEvents zeroTrust) (engine.start zeroTrust).2 := by
  unfold startEvents
  generalize outcome : engine.start zeroTrust = result
  obtain ⟨answer, after⟩ := result
  cases answer with
  | ok => exact .single (.started outcome)
  | error fault => exact .single (.startRefused outcome)

theorem teardown_path (engine : Engine) :
    Path engine (if engine.initialized then [.stopped] else []) engine.teardown := by
  unfold teardown
  split
  · rename_i live
    exact .single (.stopped live)
  · exact .done

theorem register_path (engine : Engine) (patternType : Datum) (rule : Option Text)
    (validator : Option Validator) :
    Path engine (engine.registerEvents patternType rule validator)
      (engine.register patternType rule validator).2 := by
  unfold registerEvents register
  split
  · rename_i live
    split
    · exact .done
    · rename_i registered
      have step : Step engine (.registered ⟨patternType, rule, validator⟩) _ :=
        .registered live registered
      exact .single step
  · exact .done

theorem registerEach_path (engine : Engine) (patterns : List (PatternType × Text)) :
    Path engine (engine.registerEachEvents patterns) (engine.registerEach patterns).2 := by
  induction patterns generalizing engine with
  | nil => exact .done
  | cons pattern others ih =>
      obtain ⟨patternType, rule⟩ := pattern
      have first := engine.register_path (.text patternType.name.toList) (some rule) none
      unfold registerEachEvents registerEach
      rcases registered : engine.register (.text patternType.name.toList) (some rule) none with
        ⟨fault | id, middle⟩ <;> rw [registered] at first
      · rwa [registerEvents, registered] at first
      · have later := first.append (ih middle)
        dsimp only
        split <;> rename_i rest <;> rwa [rest] at later

theorem addTransition_path (engine : Engine) (source target : Int) (symbol : Datum)
    (weight : Amount) (validator : Option Validator) :
    Path engine
      (Event.ofResult (engine.addTransition source target symbol weight validator).1 .declared)
      (engine.addTransition source target symbol weight validator).2 := by
  unfold addTransition
  split
  · rename_i live
    split
    · exact .done
    · rename_i declared
      exact .single (.declared live declared)
  · exact .done

theorem normalize_path (engine : Engine) (data : Datum) (bound : Option Int) :
    Path engine [] (engine.normalize data bound).2 := by
  unfold normalize
  split
  · rename_i live
    obtain ⟨held, keeps⟩ := engine.context.normalize_holds data bound
    dsimp only
    rw [keeps]
    exact .ofHeld live held
  · exact .done

theorem equivalent_path (engine : Engine) (first second : Datum) :
    Path engine [] (engine.equivalent first second).2 := by
  unfold equivalent
  split
  · rename_i live
    obtain ⟨held, keeps⟩ := engine.context.normalizeBoth_holds first second none
    dsimp only [Canonical.Context.equivalent]
    rw [keeps]
    exact .ofHeld live held
  · exact .done

theorem requireEquivalent_path (engine : Engine) (first second : Datum) :
    Path engine [] (engine.requireEquivalent first second).2 := by
  unfold requireEquivalent
  split
  · rename_i live
    obtain ⟨held, keeps⟩ := engine.context.normalizeBoth_holds first second none
    dsimp only [Canonical.Context.requireEquivalent]
    rw [keeps]
    exact .ofHeld live held
  · exact .done

theorem scanForm_path (engine : Engine) (live : engine.initialized = true)
    (form : Canonical.Form) :
    Path engine (Event.ofResult (engine.scanForm form).1 .scanned) (engine.scanForm form).2 := by
  unfold scanForm
  split
  · exact .done
  · rename_i scanned
    split
    · exact .done
    · rename_i charged
      exact .single (.scanned live scanned charged)

theorem process_path (engine : Engine) (data : Datum) :
    Path engine (Event.ofResult (engine.process data).1 .scanned) (engine.process data).2 := by
  unfold process
  split
  · rename_i live
    split
    · exact .done
    · exact .done
    · obtain ⟨held, keeps⟩ := engine.context.normalize_holds data none
      split <;> rename_i normalized <;> rw [normalized] at keeps <;> dsimp only at keeps <;>
        subst keeps
      · exact .ofHeld live held
      · split
        · exact .ofHeld live held
        · exact .held held live ((engine.holding held).scanForm_path live _)
  · exact .done

end Engine

namespace Session

def events (session : Session) : Operation → List Event
  | .start zeroTrust => session.engine.startEvents zeroTrust
  | .teardown => if session.engine.initialized then [.stopped] else []
  | .enterScope => if session.engine.initialized then [] else session.engine.startEvents true
  | .leaveScopes =>
    if session.engine.initialized && decide (0 < session.openScopes) then [.stopped] else []
  | .register patternType rule validator =>
    session.engine.registerEvents patternType rule validator
  | .registerStandard includeHeader =>
    session.engine.registerEachEvents (Engine.standardPatterns includeHeader)
  | .addTransition source target symbol weight validator =>
    Event.ofResult (session.engine.addTransition source target symbol weight validator).1 .declared
  | .process data | .validate data => Event.ofResult (session.engine.process data).1 .scanned
  | .normalize .. | .equivalent .. | .requireEquivalent .. | .cost | .zone | .states | .config
  | .specification | .exportAs .. => []

theorem teardownTimes_idle {engine : Engine} (idle : engine.initialized = false) (count : Nat) :
    teardownTimes count engine = engine := by
  induction count with
  | zero => rfl
  | succ count ih => simpa [teardownTimes, Engine.teardown, idle] using ih

theorem teardownTimes_path (count : Nat) (engine : Engine) :
    engine.Path (if engine.initialized && decide (0 < count) then [.stopped] else [])
      (teardownTimes count engine) := by
  cases live : engine.initialized with
  | false =>
      rw [teardownTimes_idle live]
      exact .done
  | true =>
      cases count with
      | zero => exact .done
      | succ count =>
          -- Only the first teardown meets an engine that is initialised.
          have stops := engine.teardown_path
          simp only [live, if_true] at stops
          have idle : engine.teardown.initialized = false := by
            simp [Engine.teardown, live, Engine.create]
          rw [teardownTimes, teardownTimes_idle idle]
          exact stops

theorem enterScope_path (session : Session) :
    session.engine.Path (session.events .enterScope) session.enterScope.2.engine := by
  have entered : session.enterScope.2.engine = session.engine.enter.2 := by
    unfold enterScope
    split <;> rename_i result <;> rw [result]
  rw [entered, Engine.enter, events]
  split
  · exact .done
  · exact session.engine.start_path true

theorem perform_path (session : Session) (operation : Operation) :
    session.engine.Path (session.events operation) (session.perform operation).2.engine := by
  cases operation with
  | start zeroTrust => exact session.engine.start_path zeroTrust
  | teardown => exact session.engine.teardown_path
  | enterScope => exact session.enterScope_path
  | leaveScopes => exact teardownTimes_path _ _
  | register => exact session.engine.register_path _ _ _
  | registerStandard => exact session.engine.registerEach_path _
  | addTransition => exact session.engine.addTransition_path _ _ _ _ _
  | normalize => exact session.engine.normalize_path _ _
  | equivalent => exact session.engine.equivalent_path _ _
  | requireEquivalent => exact session.engine.requireEquivalent_path _ _
  | process => exact session.engine.process_path _
  | validate => exact session.engine.process_path _
  | cost | zone | states | config | specification | exportAs => exact .done

end Session

end ProtocolGate
