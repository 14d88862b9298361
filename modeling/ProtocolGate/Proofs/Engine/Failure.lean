import ProtocolGate.Proofs.Engine.Runs
import ProtocolGate.Proofs.Governance

/-!
Requests that fail. All of them leave the engine as it was, apart from its holding area, except for
the validation of an input whose scan has already been charged.
-/

namespace ProtocolGate

namespace Engine

theorem Path.eq_scanned {engine after : Engine} {outcome : ScanOutcome}
    (path : Path engine [.scanned outcome] after) :
    ∃ held, after =
      { engine.holding held with
        accumulated := engine.accumulated + outcome.cost
        currentState := outcome.finalState } := by
  generalize single : [Event.scanned outcome] = events at path
  induction path with
  | done => contradiction
  | held text _ _ ih =>
      obtain ⟨held, same⟩ := ih single
      exact ⟨held, same⟩
  | step step rest _ =>
      obtain ⟨rfl, rfl⟩ := List.cons.inj single
      cases step with
      | scanned live scanned charged =>
          obtain ⟨_, _, rfl⟩ := Governance.charge_ok charged
          exact rest.eq_holding

end Engine

namespace Session

def Operation.isRequest : Operation → Bool
  | .start _ | .teardown | .enterScope | .leaveScopes | .registerStandard _ => false
  | _ => true

variable {session after : Session} {operation : Operation} {failure : Failure}

theorem answer_error {wrap : α → Answer} {result : Except Fault α}
    (failed : answer wrap result = .error failure) : ∃ fault, result = .error fault := by
  cases result with
  | ok value => contradiction
  | error fault => exact ⟨fault, rfl⟩

theorem ofResult_eq_nil {wrap : α → Answer} {result : Except Fault α} {event : α → Event}
    (failed : answer wrap result = .error failure) : Event.ofResult result event = [] := by
  obtain ⟨fault, rfl⟩ := answer_error failed
  rfl

theorem perform_request (session : Session) (request : operation.isRequest = true) :
    (session.perform operation).2 =
      { session with engine := (session.perform operation).2.engine } := by
  cases operation with
  | start | teardown | enterScope | leaveScopes | registerStandard => contradiction
  | register | addTransition | normalize | equivalent | requireEquivalent | process | validate
  | cost | zone | states | config | specification | exportAs => rfl

theorem perform_events_nil (request : operation.isRequest = true)
    (failed : (session.perform operation).1 = .error failure)
    (other : ∀ data, operation ≠ .validate data) : session.events operation = [] := by
  cases operation with
  | start | teardown | enterScope | leaveScopes | registerStandard => contradiction
  | register patternType rule validator => exact ofResult_eq_nil failed
  | addTransition source target symbol weight validator => exact ofResult_eq_nil failed
  | process data =>
      simp only [perform] at failed
      rw [events]
      cases answered : (session.engine.process data).1 with
      | error failure => rfl
      | ok outcome => simp [answered, Except.map] at failed
  | validate data => exact absurd rfl (other data)
  | normalize | equivalent | requireEquivalent | cost | zone | states | config | specification
  | exportAs => rfl

/-- A request that fails leaves all but the holding area as it was, with one exception: a validation
that refuses the outcome of its scan has charged the scan by then, and has moved to the state where
it ended. -/
theorem perform_failed (request : operation.isRequest = true)
    (failed : session.perform operation = (.error failure, after)) :
    (∃ held, after = { session with engine := session.engine.holding held }) ∨
    ∃ data outcome held, operation = .validate data ∧
      session.engine.process data = (.ok outcome, after.engine) ∧
      Engine.checkOutcome session.engine.zeroTrust outcome = .error failure ∧
      after =
        { session with
          engine :=
            { session.engine.holding held with
              accumulated := session.engine.accumulated + outcome.cost
              currentState := outcome.finalState } } := by
  have path := session.perform_path operation
  have whole := session.perform_request request
  have answered : (session.perform operation).1 = .error failure := by rw [failed]
  have unchanged (none : session.events operation = []) :
      ∃ held, after = { session with engine := session.engine.holding held } := by
    rw [none, failed] at path
    obtain ⟨held, same⟩ := path.eq_holding
    rw [failed] at whole
    dsimp only at whole same
    exact ⟨held, by rw [whole, same]⟩
  -- Every other request decides whether it fails before it changes anything but the holding area;
  -- a validation decides on the outcome of a scan that has been charged.
  by_cases validates : ∃ data, operation = .validate data
  · obtain ⟨data, rfl⟩ := validates
    rcases processed : session.engine.process data with ⟨refusal | outcome, engine⟩
    · refine .inl (unchanged ?_)
      rw [events, processed]
      rfl
    · simp only [perform, Engine.validate, processed, Except.bind] at failed
      obtain ⟨refused, rfl⟩ := Prod.mk.inj failed
      have scanned := session.engine.process_path data
      rw [processed] at scanned
      obtain ⟨held, rfl⟩ := scanned.eq_scanned
      refine .inr ⟨data, outcome, held, rfl, processed, ?_, rfl⟩
      cases checked : Engine.checkOutcome session.engine.zeroTrust outcome with
      | error refusal =>
          rw [checked] at refused
          exact congrArg Except.error (Except.error.inj refused)
      | ok accepted =>
          rw [checked] at refused
          contradiction
  · refine .inl (unchanged (perform_events_nil request answered fun data same => ?_))
    exact validates ⟨data, same⟩

@[irreducible]
def tokenSession (config : Config) : Session :=
  (new config).run [.start true, .register (.text "security_token".toList) (some ['a']) none]

theorem perform_failed_charged :
    ∃ failure after outcome,
      (tokenSession {}).perform (.validate (.text ['a'])) = (.error failure, after) ∧
      (tokenSession {}).engine.process (.text ['a']) = (.ok outcome, after.engine) ∧
      (tokenSession {}).engine.currentState = 0 ∧ after.engine.currentState = 1 ∧
      (tokenSession {}).engine.accumulated = 0 ∧ after.engine.accumulated = 0.1 := by
  have fails : ((tokenSession {}).perform (.validate (.text ['a']))).1.isOk = false := by
    decide +kernel
  have before : (tokenSession {}).engine.currentState = 0 ∧
      (tokenSession {}).engine.accumulated = 0 := by
    decide +kernel
  have moved : ((tokenSession {}).perform (.validate (.text ['a']))).2.engine.currentState = 1 ∧
      ((tokenSession {}).perform (.validate (.text ['a']))).2.engine.accumulated = 0.1 := by
    decide +kernel
  rcases performed : (tokenSession {}).perform (.validate (.text ['a'])) with
    ⟨failure | answer, after⟩
  · rw [performed] at moved
    rcases perform_failed rfl performed with ⟨held, rfl⟩ | ⟨data, outcome, held, same, scanned, _⟩
    · have stays : (tokenSession {}).engine.currentState = 1 := moved.1
      rw [before.1] at stays
      contradiction
    · obtain rfl := Operation.validate.inj same
      exact ⟨failure, after, outcome, rfl, scanned, before.1, moved.1, before.2, moved.2⟩
  · rw [performed] at fails
    contradiction

end Session

end ProtocolGate
