import ProtocolGate.Proofs.Engine.Start
import ProtocolGate.Proofs.Scan.Cached
import ProtocolGate.Proofs.Scan.States

/-!
What an answer to an input depends on. Up to marks and counts, the states of an engine are those of
the registrations since its latest start, and neither a mark nor a count nor anything else that an
engine keeps reaches the answer.
-/

namespace ProtocolGate

def Event.extend (registrations : List Registration) : Event → List Registration
  | .started _ => []
  | .registered registration => registrations ++ [registration]
  | _ => registrations

def registrations (events : List Event) : List Registration :=
  events.foldl Event.extend []

theorem registrations_append (events : List Event) (event : Event) :
    registrations (events ++ [event]) = event.extend (registrations events) := by
  simp only [registrations, List.foldl_append, List.foldl_cons, List.foldl_nil]

def Registration.operation (registration : Registration) : Session.Operation :=
  .register registration.patternType registration.rule registration.validator

def Registration.enter (states : List State) (registration : Registration) : List State :=
  match PatternType.ofDatum? registration.patternType with
  | none => states
  | some known =>
    states ++
      [{ id := states.length, patternType := known, rule := registration.rule.getD []
         accepting := known.isAccepting, requiresZeroTrust := false
         validator := registration.validator }]

theorem Registry.register_unmarked {registry after : Registry} {registration : Registration}
    {state : State}
    (registered : registry.register registration.patternType registration.rule
      registration.validator = .ok (state, after)) :
    after.states.map State.unmarked =
      registration.enter (registry.states.map State.unmarked) := by
  obtain ⟨known, text, named, given, _, _, _, _, rfl, rfl⟩ := register_ok registered
  simp only [List.map_append, List.map_singleton, Registration.enter, named, given,
    Option.getD_some, List.length_map]
  rfl

theorem Registry.addTransition_unmarked {registry after : Registry} {source target : Int}
    {symbol : Datum} {weight : Amount} {validator : Option Validator} {transition : Transition}
    (declared : registry.addTransition source target symbol weight validator =
      .ok (transition, after)) :
    after.states.map State.unmarked = registry.states.map State.unmarked := by
  obtain ⟨_, _, _, _, _, _, _, rfl⟩ := addTransition_ok declared
  rw [List.map_map]
  exact List.map_congr_left fun state _ => unmarked_countTransition source state

theorem Governance.charge_cases (left right : Float) (amount : Amount) :
    (∃ failure, charge left amount = .error failure ∧ charge right amount = .error failure) ∨
      ∃ before after, charge left amount = .ok before ∧ charge right amount = .ok after := by
  unfold charge
  split
  · exact .inl ⟨_, rfl, rfl⟩
  · split
    · exact .inl ⟨_, rfl, rfl⟩
    · split
      · exact .inr ⟨_, _, rfl, rfl⟩
      · exact .inl ⟨_, rfl, rfl⟩

namespace Engine

def statesAfter (events : List Event) : List State :=
  (registrations events).foldl Registration.enter [headerState.unmarked]

/-- An engine of a configuration holds, while it is in use, the states of its registrations. -/
structure Traced (config : Config) (events : List Event) (engine : Engine) : Prop where
  configured : engine.Configured config
  states : engine.initialized = true →
    engine.registry.states.map State.unmarked = statesAfter events

theorem Step.traced {config : Config} {events : List Event} {engine after : Engine}
    {event : Event} (room : StandardRule.header.length ≤ config.maxPatternLength)
    (step : Step engine event after) (before : engine.Traced config events) :
    after.Traced config (events ++ [event]) := by
  refine ⟨step.configured before.configured, fun initialized => ?_⟩
  obtain rfl := before.configured.same
  rw [statesAfter, registrations_append]
  cases step with
  | started outcome =>
      obtain ⟨_, rfl⟩ := started_of_room room outcome
      rfl
  | startRefused outcome =>
      obtain ⟨refused, _⟩ := started_of_room room outcome
      contradiction
  | stopped => contradiction
  | registered live registered =>
      rw [Registry.register_unmarked registered, before.states live, Event.extend,
        List.foldl_append]
      rfl
  | declared live declared =>
      exact (Registry.addTransition_unmarked declared).trans (before.states live)
  | scanned live _ _ => exact before.states live

theorem scanForm_congr {left right : Engine} (form : Canonical.Form)
    (ignoreCase : left.registry.ignoreCase = right.registry.ignoreCase)
    (states : left.registry.states.map State.unmarked =
      right.registry.states.map State.unmarked) :
    (left.scanForm form).1 = (right.scanForm form).1 := by
  -- A scan cannot tell a state from the same state without its mark and its count.
  have scans : scan left.registry.ignoreCase form left.registry.states initialState =
      scan right.registry.ignoreCase form right.registry.states initialState := by
    rw [← scan_unmarked, states, ignoreCase, scan_unmarked]
  unfold scanForm
  rw [scans]
  cases scan right.registry.ignoreCase form right.registry.states initialState with
  | error failure => rfl
  | ok outcome =>
      rcases Governance.charge_cases left.accumulated right.accumulated (.float outcome.cost) with
        ⟨fault, refused, refusedToo⟩ | ⟨before, after, charged, chargedToo⟩
      · simp only [refused, refusedToo]
      · simp only [charged, chargedToo]

theorem Configured.normalize {config : Config} {engine : Engine}
    (configured : engine.Configured config) (data : Datum) :
    (engine.context.normalize data).1 = ((newContext config).normalize data).1 := by
  rw [configured.context]
  exact (newContext config).normalize_holding engine.context.held data none

theorem process_congr {config : Config} {left right : Engine}
    (leftConfigured : left.Configured config) (rightConfigured : right.Configured config)
    (leftLive : left.initialized = true) (rightLive : right.initialized = true)
    (states : left.registry.states.map State.unmarked =
      right.registry.states.map State.unmarked) (data : Datum) :
    (left.process data).1 = (right.process data).1 := by
  have ignoreCase : left.registry.ignoreCase = right.registry.ignoreCase :=
    leftConfigured.ignoreCase.trans rightConfigured.ignoreCase.symm
  have forms : (left.context.normalize data).1 = (right.context.normalize data).1 :=
    (leftConfigured.normalize data).trans (rightConfigured.normalize data).symm
  -- Each branch is taken on the input, on its form or on the configuration, and all three are the
  -- same on both sides; what the branches write into the engines is not.
  unfold process
  rw [leftLive, rightLive, if_pos rfl, if_pos rfl, leftConfigured.same, rightConfigured.same]
  rcases Canonical.inputText data with fault | _ | ⟨c, rest⟩
  · rfl
  · rfl
  · rcases leftForm : left.context.normalize data with ⟨answer, leftContext⟩
    rcases rightForm : right.context.normalize data with ⟨other, rightContext⟩
    rw [leftForm, rightForm] at forms
    obtain rfl : answer = other := forms
    cases answer with
    | error fault => rfl
    | ok form =>
        dsimp only
        split
        · rfl
        · exact scanForm_congr form ignoreCase states

end Engine

namespace Session

open Engine

theorem room_of_initialized {config : Config} {session : Session}
    (reachable : Reachable config session) (live : session.engine.initialized = true) :
    StandardRule.header.length ≤ config.maxPatternLength := by
  refine Nat.not_lt.mp fun tight => ?_
  rw [reachable.idle tight] at live
  contradiction

theorem run_traced {config : Config} (operations : List Operation)
    (live : ((new config).run operations).engine.initialized = true) :
    ((new config).run operations).engine.Traced config ((new config).history operations) := by
  have room := room_of_initialized (reachable_run config operations) live
  refine ((new config).run_path operations).invariant [] (fun events engine =>
    engine.Traced config events) ?_ ?_ ⟨create_configured config, fun _ => by contradiction⟩
  · intro events engine text _ before
    exact ⟨before.configured.holding text, before.states⟩
  · intro events engine event after step before
    exact step.traced room before

theorem registrations_run_operation {session : Session} {earlier : List Operation}
    {registration : Registration}
    (taken : ((session.run earlier).engine.register registration.patternType registration.rule
      registration.validator).1.isOk = true) :
    registrations (session.history (earlier ++ [registration.operation])) =
      registrations (session.history earlier) ++ [registration] := by
  have event : (session.run earlier).history [registration.operation] =
      [.registered registration] := by
    rw [history, history, List.append_nil, Registration.operation, events, registerEvents]
    cases answered : ((session.run earlier).engine.register registration.patternType
        registration.rule registration.validator).1 with
    | error fault =>
        rw [answered] at taken
        contradiction
    | ok id => rfl
  rw [history_append, event, registrations_append]
  rfl

/-- Two runs that end in engines in use and that have made the same registrations since their latest
starts: all inputs get the same answers. Neither the marks of the starts nor transitions, earlier
inputs or earlier lives count, nor does what either engine finds in the store of compiled rules. -/
theorem process_of_registrations {config : Config} {left right : List Operation}
    (leftLive : ((new config).run left).engine.initialized = true)
    (rightLive : ((new config).run right).engine.initialized = true)
    (same : registrations ((new config).history left) =
      registrations ((new config).history right))
    (data : Datum) (leftUses rightUses : List Pattern.CacheKey) :
    (((new config).run left).engine.process data).1 =
        (((new config).run right).engine.process data).1 ∧
      (((new config).run left).engine.processCached (.used leftUses) data).1 =
        (((new config).run left).engine.process data).1 ∧
      (((new config).run right).engine.processCached (.used rightUses) data).1 =
        (((new config).run right).engine.process data).1 := by
  have leftRun := run_traced left leftLive
  have rightRun := run_traced right rightLive
  have states := leftRun.states leftLive
  rw [statesAfter, same] at states
  refine ⟨?_, ?_, ?_⟩
  · exact process_congr leftRun.configured rightRun.configured leftLive rightLive
      (states.trans (rightRun.states rightLive).symm) data
  · exact (processCached_spec (Pattern.Cache.used_sound leftUses) _ data).1
  · exact (processCached_spec (Pattern.Cache.used_sound rightUses) _ data).1

def shortPayload : Registration where
  patternType := .text "data_payload".toList
  rule := some "a+".toList
  validator := some fun content => .ok (decide (content.length < 3))

@[irreducible]
def usedRun : List Operation :=
  [.start false, .register (.text "audit_marker".toList) (some ['b']) none, .process (.text ['b']),
    .teardown, .enterScope, .addTransition 0 0 (.text ['x']) (.whole 1) none,
    .process (.text ['z'])]

@[irreducible]
def freshRun : List Operation :=
  [.start false]

theorem process_of_registrations_used :
    ((new {}).run (usedRun ++ [shortPayload.operation])).engine.zeroTrust = true ∧
    ((new {}).run (freshRun ++ [shortPayload.operation])).engine.zeroTrust = false ∧
    (((new {}).run (usedRun ++ [shortPayload.operation])).engine.process
      (.text "aab".toList)).1.isOk = true ∧
    ∀ data, (((new {}).run (usedRun ++ [shortPayload.operation])).engine.process data).1 =
      (((new {}).run (freshRun ++ [shortPayload.operation])).engine.process data).1 := by
  have used : registrations ((new {}).history usedRun) = [] :=
    List.isEmpty_iff.mp (by decide +kernel)
  have fresh : registrations ((new {}).history freshRun) = [] :=
    List.isEmpty_iff.mp (by decide +kernel)
  obtain ⟨usedLive, freshLive, usedMark, freshMark, answers⟩ :
      ((new {}).run (usedRun ++ [shortPayload.operation])).engine.initialized = true ∧
      ((new {}).run (freshRun ++ [shortPayload.operation])).engine.initialized = true ∧
      ((new {}).run (usedRun ++ [shortPayload.operation])).engine.zeroTrust = true ∧
      ((new {}).run (freshRun ++ [shortPayload.operation])).engine.zeroTrust = false ∧
      (((new {}).run (usedRun ++ [shortPayload.operation])).engine.process
        (.text "aab".toList)).1.isOk = true := by
    decide +kernel
  have same : registrations ((new {}).history (usedRun ++ [shortPayload.operation])) =
      registrations ((new {}).history (freshRun ++ [shortPayload.operation])) := by
    rw [registrations_run_operation (by decide +kernel),
      registrations_run_operation (by decide +kernel), used, fresh]
  refine ⟨usedMark, freshMark, answers, fun data => ?_⟩
  exact (process_of_registrations usedLive freshLive same data [] []).1

end Session

end ProtocolGate
