import ProtocolGate.Proofs.Engine.Failure
import ProtocolGate.Proofs.Engine.Independence
import ProtocolGate.Proofs.Scan.Outcome

/-!
The running cost and the position of an engine. Both follow from the scans that ran to completion
since the latest start, and nothing but a process that succeeds adds to these.
-/

namespace ProtocolGate

def Event.complete (scans : List ScanOutcome) : Event → List ScanOutcome
  | .started _ => []
  | .scanned outcome => scans ++ [outcome]
  | .startRefused _ | .stopped | .registered _ | .declared _ => scans

def completedScans (events : List Event) : List ScanOutcome :=
  events.foldl Event.complete []

theorem completedScans_append (events : List Event) (event : Event) :
    completedScans (events ++ [event]) = event.complete (completedScans events) := by
  simp only [completedScans, List.foldl_append, List.foldl_cons, List.foldl_nil]

/-- What an engine has charged, and where it is. -/
structure Books where
  accumulated : Float := 0
  currentState : Int := Engine.initialState

namespace Books

def enter (books : Books) (outcome : ScanOutcome) : Books where
  accumulated := books.accumulated + outcome.cost
  currentState := outcome.finalState

def ofScans (scans : List ScanOutcome) : Books where
  accumulated := scans.foldl (fun total outcome => total + outcome.cost) 0
  currentState := (scans.getLast?.map ScanOutcome.finalState).getD Engine.initialState

theorem ofScans_append (scans : List ScanOutcome) (outcome : ScanOutcome) :
    ofScans (scans ++ [outcome]) = (ofScans scans).enter outcome := by
  simp only [ofScans, enter, List.foldl_append, List.foldl_cons, List.foldl_nil,
    List.getLast?_concat, Option.map_some, Option.getD_some]

theorem accumulated_atMost {scans : List ScanOutcome}
    (small : ∀ outcome ∈ scans, Decimal.AtMost 854 outcome.cost) :
    Decimal.AtMost 908 (ofScans scans).accumulated := by
  have summed : ∀ total, Decimal.AtMost 908 total →
      Decimal.AtMost 908 (scans.foldl (fun total outcome => total + outcome.cost) total) := by
    induction scans with
    | nil => exact fun total atMost => atMost
    | cons outcome scans ih =>
        intro total atMost
        refine ih (fun later member => small later (List.mem_cons_of_mem _ member)) _ ?_
        exact atMost.add (by decide) (by decide) (small outcome List.mem_cons_self)
  exact summed 0 .zero

end Books

def Event.book (books : Books) : Event → Books
  | .started _ | .startRefused _ | .stopped => {}
  | .registered _ | .declared _ => books
  | .scanned outcome => books.enter outcome

namespace Engine

def books (engine : Engine) : Books where
  accumulated := engine.accumulated
  currentState := engine.currentState

theorem start_books (engine : Engine) (zeroTrust : Bool) :
    (engine.start zeroTrust).2.books = {} := by
  rw [start_eq]
  split <;> rfl

theorem Step.books {engine after : Engine} {event : Event} (step : Step engine event after) :
    after.books = event.book engine.books := by
  cases step with
  | @started _ mode outcome =>
      have cleared := engine.start_books mode
      rwa [outcome] at cleared
  | @startRefused _ mode _ outcome =>
      have cleared := engine.start_books mode
      rwa [outcome] at cleared
  | stopped => rfl
  | registered => rfl
  | declared => rfl
  | scanned _ _ charged =>
      obtain ⟨_, _, rfl⟩ := Governance.charge_ok charged
      rfl

theorem Path.books {engine after : Engine} {events : List Event}
    (path : Path engine events after) : after.books = events.foldl Event.book engine.books := by
  induction path with
  | done => rfl
  | held _ _ _ ih => exact ih
  | step taken _ ih => rw [ih, taken.books, List.foldl_cons]

structure Booked (config : Config) (events : List Event) (engine : Engine) : Prop where
  configured : engine.Configured config
  books : engine.initialized = true → engine.books = .ofScans (completedScans events)

theorem Step.booked {config : Config} {events : List Event} {engine after : Engine}
    {event : Event} (room : StandardRule.header.length ≤ config.maxPatternLength)
    (step : Step engine event after) (before : engine.Booked config events) :
    after.Booked config (events ++ [event]) := by
  refine ⟨step.configured before.configured, fun initialized => ?_⟩
  obtain rfl := before.configured.same
  rw [completedScans_append, step.books]
  cases step with
  | started => rfl
  | startRefused outcome =>
      obtain ⟨refused, _⟩ := started_of_room room outcome
      contradiction
  | stopped => contradiction
  | registered live _ => exact before.books live
  | declared live _ => exact before.books live
  | scanned live _ _ =>
      rw [Event.book, Event.complete, Books.ofScans_append, before.books live]

theorem registerEachEvents_same (engine : Engine) (patterns : List (PatternType × Text))
    (books : Books) (scans : List ScanOutcome) :
    (engine.registerEachEvents patterns).foldl Event.book books = books ∧
      (engine.registerEachEvents patterns).foldl Event.complete scans = scans := by
  induction patterns generalizing engine with
  | nil => exact ⟨rfl, rfl⟩
  | cons pattern others ih =>
      unfold registerEachEvents registerEvents
      split
      · exact ⟨rfl, rfl⟩
      · rename_i after registered
        rw [registered]
        exact ih after

end Engine

namespace Session

open Engine

theorem run_booked {config : Config} (operations : List Operation)
    (live : ((new config).run operations).engine.initialized = true) :
    ((new config).run operations).engine.Booked config ((new config).history operations) := by
  have room := room_of_initialized (reachable_run config operations) live
  refine ((new config).run_path operations).invariant [] (fun events engine =>
    engine.Booked config events) ?_ ?_ ⟨create_configured config, fun _ => by contradiction⟩
  · intro events engine text _ before
    exact ⟨before.configured.holding text, before.books⟩
  · intro events engine event after step before
    exact step.booked room before

theorem perform_books (session : Session) (operation : Operation) :
    (session.perform operation).2.engine.books =
      (session.events operation).foldl Event.book session.engine.books :=
  (session.perform_path operation).books

theorem completedScans_perform (session : Session) (earlier : List Operation)
    (operation : Operation) :
    completedScans (session.history (earlier ++ [operation])) =
      ((session.run earlier).events operation).foldl Event.complete
        (completedScans (session.history earlier)) := by
  rw [history_append, history, history, List.append_nil, completedScans, List.foldl_append]
  rfl

def Operation.processes (operation : Operation) (data : Datum) : Prop :=
  operation = .process data ∨ operation = .validate data

def Operation.isLifecycle : Operation → Bool
  | .start _ | .teardown | .enterScope | .leaveScopes => true
  | _ => false

theorem ofResult_same {result : Except Fault α} {event : α → Event} (books : Books)
    (scans : List ScanOutcome) (sameBooks : ∀ value, (event value).book books = books)
    (sameScans : ∀ value, (event value).complete scans = scans) :
    (Event.ofResult result event).foldl Event.book books = books ∧
      (Event.ofResult result event).foldl Event.complete scans = scans := by
  cases result with
  | error fault => exact ⟨rfl, rfl⟩
  | ok value => exact ⟨sameBooks value, sameScans value⟩

theorem events_of_other (session : Session) {operation : Operation}
    (other : ∀ data, ¬ operation.processes data) (books : Books) (scans : List ScanOutcome) :
    ((session.events operation).foldl Event.book books = books ∧
        (session.events operation).foldl Event.complete scans = scans) ∨
      operation.isLifecycle = true ∧
        (session.events operation).foldl Event.book books = {} := by
  cases operation with
  | start zeroTrust =>
      refine .inr ⟨rfl, ?_⟩
      rw [events, startEvents]
      split <;> rfl
  | teardown =>
      rw [events]
      split
      · exact .inr ⟨rfl, rfl⟩
      · exact .inl ⟨rfl, rfl⟩
  | enterScope =>
      rw [events]
      split
      · exact .inl ⟨rfl, rfl⟩
      · refine .inr ⟨rfl, ?_⟩
        rw [startEvents]
        split <;> rfl
  | leaveScopes =>
      rw [events]
      split
      · exact .inr ⟨rfl, rfl⟩
      · exact .inl ⟨rfl, rfl⟩
  | register => exact .inl (ofResult_same books scans (fun _ => rfl) fun _ => rfl)
  | registerStandard includeHeader =>
      exact .inl (session.engine.registerEachEvents_same (standardPatterns includeHeader)
        books scans)
  | addTransition => exact .inl (ofResult_same books scans (fun _ => rfl) fun _ => rfl)
  | process data => exact absurd (.inl rfl) (other data)
  | validate data => exact absurd (.inr rfl) (other data)
  | normalize | equivalent | requireEquivalent | cost | zone | states | config | specification
  | exportAs => exact .inl ⟨rfl, rfl⟩

theorem events_of_processes (session : Session) {operation : Operation} {data : Datum}
    (processes : operation.processes data) :
    session.events operation = Event.ofResult (session.engine.process data).1 .scanned := by
  rcases processes with rfl | rfl <;> rfl

/-- After any run an engine in use has charged the costs of the scans that ran to completion since
its latest start, each of them once and in their order, and it is where the last one ended. A call
that processes an input adds the outcome of its process, even if it then refuses that outcome, and
it adds nothing if the process fails. Every other operation leaves the books alone or, at a start or
a stop, opens new ones. -/
theorem run_accounting (config : Config) (operations : List Operation) :
    let session := (new config).run operations
    let scans := completedScans ((new config).history operations)
    (session.engine.initialized = true →
      session.engine.accumulated = scans.foldl (fun total outcome => total + outcome.cost) 0 ∧
      session.engine.currentState =
        (scans.getLast?.map ScanOutcome.finalState).getD initialState) ∧
    (∀ operation data, operation.processes data →
      let scansAfter := completedScans ((new config).history (operations ++ [operation]))
      (∀ outcome, (session.engine.process data).1 = .ok outcome →
        scansAfter = scans ++ [outcome] ∧
        (session.perform operation).2.engine.books = session.engine.books.enter outcome) ∧
      (∀ failure, (session.engine.process data).1 = .error failure →
        scansAfter = scans ∧
        (session.perform operation).2.engine.books = session.engine.books)) ∧
    ∀ operation, (∀ data, ¬ operation.processes data) →
      (completedScans ((new config).history (operations ++ [operation])) = scans ∧
        (session.perform operation).2.engine.books = session.engine.books) ∨
      operation.isLifecycle = true ∧ (session.perform operation).2.engine.books = {} := by
  intro session scans
  refine ⟨fun live => ?_, fun operation data processes => ?_, fun operation other => ?_⟩
  · have booked := (run_booked operations live).books live
    exact ⟨congrArg Books.accumulated booked, congrArg Books.currentState booked⟩
  · have events := session.events_of_processes processes
    have books := session.perform_books operation
    have scansAfter := completedScans_perform (new config) operations operation
    change _ = (session.events operation).foldl Event.complete scans at scansAfter
    rw [events] at books scansAfter
    refine ⟨fun outcome processed => ?_, fun failure processed => ?_⟩
    · rw [processed] at books scansAfter
      exact ⟨scansAfter, books⟩
    · rw [processed] at books scansAfter
      exact ⟨scansAfter, books⟩
  · rw [perform_books, completedScans_perform]
    rcases session.events_of_other other session.engine.books scans with ⟨books, same⟩ | opened
    · exact .inl ⟨same, books⟩
    · exact .inr opened

def raisingToken : Operation :=
  .register (.text "security_token".toList) (some "a+".toList)
    (some fun content => if content.length ≤ 2 then .ok true else .error "too long".toList)

/-- Two lives. In the second one a process succeeds, a validation is refused after its scan, and a
validator raises in the middle of a scan. -/
@[irreducible]
def chargedRun : List Operation :=
  [.start true, raisingToken, .process (.text ['a']), .start false, raisingToken,
    .process (.text "aab".toList), .validate (.text "ba".toList), .process (.text "abaaa".toList),
    .validate (.text []), .enterScope, .addTransition 0 1 (.text ['x']) (.whole 1) none]

theorem run_accounting_charged :
    ((new {}).run chargedRun).engine.initialized = true ∧
      (completedScans ((new {}).history chargedRun)).map ScanOutcome.cost = [0.2, 0.1] ∧
      ((new {}).run chargedRun).engine.accumulated = 0 + 0.2 + 0.1 ∧
      ((new {}).run chargedRun).engine.currentState = 1 := by
  have live : ((new {}).run chargedRun).engine.initialized = true := by decide +kernel
  have costs : (completedScans ((new {}).history chargedRun)).map ScanOutcome.cost =
      [0.2, 0.1] := by
    decide +kernel
  have ends : (completedScans ((new {}).history chargedRun)).getLast?.map ScanOutcome.finalState =
      some 1 := by
    decide +kernel
  obtain ⟨accumulated, currentState⟩ := (run_accounting {} chargedRun).1 live
  refine ⟨live, costs, ?_, ?_⟩
  · have summed := congrArg (List.foldl (fun total cost => total + cost) 0) costs
    rw [List.foldl_map] at summed
    exact accumulated.trans summed
  · rw [currentState, ends]
    rfl

end Session

end ProtocolGate
