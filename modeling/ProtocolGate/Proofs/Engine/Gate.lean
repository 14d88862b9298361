import ProtocolGate.Proofs.Canonical.Pieces
import ProtocolGate.Proofs.Engine.Equivalence
import ProtocolGate.Proofs.Scan.Outcome

/-!
The gate of an engine: which inputs it validates, and why it refuses the others. Its registry is
consistent after every run, so a scan fails only where a validator raises, and an outcome is
accepted exactly if its last record completes a message.
-/

namespace ProtocolGate

def Datum.HasContent (data : Datum) : Prop :=
  (∃ text, data = .text text ∧ text ≠ []) ∨
    ∃ bytes, (data = .bytes bytes ∨ data = .byteBuffer bytes) ∧ bytes ≠ []

namespace Canonical

theorem hasContent_iff {data : Datum} :
    data.HasContent ↔ ∃ text, inputText data = .ok text ∧ text ≠ [] := by
  constructor
  · rintro (⟨text, rfl, nonempty⟩ | ⟨bytes, rfl | rfl, nonempty⟩)
    · exact ⟨text, rfl, nonempty⟩
    · exact ⟨_, rfl, by simpa using nonempty⟩
    · exact ⟨_, rfl, by simpa using nonempty⟩
  · rintro ⟨text, read, nonempty⟩
    cases data with
    | text given =>
        obtain rfl := Except.ok.inj read
        exact .inl ⟨given, rfl, nonempty⟩
    | bytes given =>
        obtain rfl := Except.ok.inj read
        exact .inr ⟨given, .inl rfl, by simpa using nonempty⟩
    | byteBuffer given =>
        obtain rfl := Except.ok.inj read
        exact .inr ⟨given, .inr rfl, by simpa using nonempty⟩
    | nothing | truth | int | float | list | record => contradiction

end Canonical

namespace Engine

theorem start_consistent (engine : Engine) (zeroTrust : Bool) :
    (engine.start zeroTrust).2.registry.Consistent := by
  have empty := Registry.consistent_empty engine.config.caseFold zeroTrust
    (newRegistry engine.config zeroTrust).limits
  unfold start
  dsimp only
  split
  · exact empty
  · rename_i registered
    exact empty.register registered

theorem Step.consistent {engine after : Engine} {event : Event} (step : Step engine event after)
    (before : engine.registry.Consistent) : after.registry.Consistent := by
  cases step with
  | started outcome | startRefused outcome =>
      have same := congrArg Prod.snd outcome
      dsimp only at same
      rw [← same]
      exact engine.start_consistent _
  | stopped => exact Registry.consistent_empty _ _ _
  | registered _ registered => exact before.register registered
  | declared _ declared => exact before.addTransition declared
  | scanned => exact before

variable {engine : Engine} {data : Datum} {outcome : ScanOutcome}

theorem process_invalid (live : engine.initialized = true) (without : ¬ data.HasContent) :
    ∃ fault, (engine.process data).1 = .error (.fault fault) ∧ fault.kind = .invalidInput := by
  cases read : Canonical.inputText data with
  | error fault =>
      refine ⟨fault, ?_, Canonical.inputText_error read⟩
      simp only [process, live, if_true, read]
  | ok text =>
      have empty : text = [] := Classical.byContradiction fun nonempty =>
        without (Canonical.hasContent_iff.mpr ⟨text, read, nonempty⟩)
      rw [empty] at read
      exact ⟨.inputEmpty, by rw [process_empty live read], rfl⟩

theorem scanForm_canonical {form : Canonical.Form}
    (scanned : (engine.scanForm form).1 = .ok outcome) : outcome.canonical = form := by
  unfold scanForm at scanned
  split at scanned
  · contradiction
  · rename_i found
    split at scanned
    · contradiction
    · obtain rfl := Except.ok.inj scanned
      exact Scan.scan_canonical found

theorem process_complete (rejects : engine.config.rejectTruncated = true)
    (processed : (engine.process data).1 = .ok outcome) : outcome.canonical.truncated = false := by
  unfold process at processed
  split at processed
  · split at processed
    · contradiction
    · contradiction
    · split at processed
      · contradiction
      · split at processed
        · contradiction
        · rename_i form _ _ kept
          rw [scanForm_canonical processed]
          simpa [rejects] using kept
  · contradiction

theorem validate_ok (validated : (engine.validate data).1 = .ok outcome) :
    (engine.process data).1 = .ok outcome ∧
      ¬ (engine.zeroTrust = true ∧ outcome.canonical.truncated = true) ∧
      outcome.accepted = true := by
  change (engine.process data).1.bind (checkOutcome engine.zeroTrust) = .ok outcome at validated
  cases processed : (engine.process data).1 with
  | error failure =>
      rw [processed] at validated
      contradiction
  | ok found =>
      rw [processed] at validated
      change checkOutcome engine.zeroTrust found = .ok outcome at validated
      unfold checkOutcome at validated
      split at validated
      · contradiction
      · rename_i complete
        split at validated
        · rename_i accepted
          obtain rfl := Except.ok.inj validated
          exact ⟨rfl, by simpa using complete, accepted⟩
        · contradiction

theorem process_normalized {text : Text} {form : Canonical.Form} (live : engine.initialized = true)
    (read : Canonical.inputText data = .ok text) (nonempty : text ≠ [])
    (normalized : (engine.context.normalize data).1 = .ok form) :
    (engine.process data).1 =
      if form.truncated && engine.config.rejectTruncated then
        .error (.fault (.inputTruncated form.length))
      else (({ engine with context := engine.context.hold form } : Engine).scanForm form).1 := by
  rw [process_nonempty live read nonempty (Canonical.Context.normalize_ok normalized)]
  split <;> rfl

/-- A registered validator raises while the engine processes the input. -/
def Raises (engine : Engine) (data : Datum) : Prop :=
  ∃ message, (engine.process data).1 = .error (.raised message) ∧
    Scan.Raises engine.registry.states message

theorem not_raises_of_process (processed : (engine.process data).1 = .ok outcome) :
    ¬ engine.Raises data := by
  rintro ⟨message, raised, _⟩
  rw [processed] at raised
  contradiction

def Refuses (engine : Engine) (form : Canonical.Form) : Prop :=
  form.truncated = true ∧ (engine.zeroTrust = true ∨ engine.config.rejectTruncated = true)

theorem not_refuses_iff {form : Canonical.Form} : ¬ engine.Refuses form ↔
    form.truncated = false ∨
      engine.zeroTrust = false ∧ engine.config.rejectTruncated = false := by
  unfold Refuses
  cases form.truncated <;> cases engine.zeroTrust <;> cases engine.config.rejectTruncated <;> simp

/-- The verdict on an input with this form: a violation of zero trust comes before a failed
validation, and what is neither is validated. -/
structure Judges (engine : Engine) (data : Datum) (form : Canonical.Form) : Prop where
  normalized : (engine.context.normalize data).1 = .ok form
  violates : engine.Refuses form → ∃ fault,
    (engine.validate data).1 = .error (.fault fault) ∧ fault.kind = .zeroTrustViolation
  scanned : ¬ engine.Refuses form → ∃ outcome,
    scan engine.registry.ignoreCase form engine.registry.states initialState = .ok outcome ∧
    (outcome.EndsAccepting → (engine.validate data).1 = .ok outcome) ∧
    (¬ outcome.EndsAccepting → ∃ fault,
      (engine.validate data).1 = .error (.fault fault) ∧ fault.kind = .validationFailed)

theorem Judges.validate_iff {form : Canonical.Form} (judges : engine.Judges data form) :
    (∃ result, (engine.validate data).1 = .ok result) ↔
      ¬ engine.Refuses form ∧ ∃ outcome,
        scan engine.registry.ignoreCase form engine.registry.states initialState = .ok outcome ∧
        outcome.EndsAccepting := by
  constructor
  · rintro ⟨result, validated⟩
    have complete : ¬ engine.Refuses form := fun refuses => by
      obtain ⟨fault, refused, _⟩ := judges.violates refuses
      rw [refused] at validated
      contradiction
    obtain ⟨outcome, scanned, _, fails⟩ := judges.scanned complete
    refine ⟨complete, outcome, scanned, Classical.byContradiction fun rejected => ?_⟩
    obtain ⟨fault, refused, _⟩ := fails rejected
    rw [refused] at validated
    contradiction
  · rintro ⟨complete, outcome, scanned, accepted⟩
    obtain ⟨again, found, validates, _⟩ := judges.scanned complete
    obtain rfl := Except.ok.inj (scanned.symm.trans found)
    exact ⟨outcome, validates accepted⟩

end Engine

namespace Session

open Engine

theorem Reachable.consistent {config : Config} {session : Session}
    (reachable : Reachable config session) : session.engine.registry.Consistent :=
  reachable.invariant (fun engine => engine.registry.Consistent)
    (Registry.consistent_empty _ _ _) (fun _ _ _ consistent => consistent)
    fun _ _ _ step consistent => step.consistent consistent

theorem exists_form {config : Config} {session : Session} (reachable : Reachable config session)
    {data : Datum} {text : Text} (read : Canonical.inputText data = .ok text) :
    ∃ form : Canonical.Form, (session.engine.context.normalize data).1 = .ok form ∧
      form.length ≤ text.length := by
  refine ⟨_, congrArg Prod.fst (Canonical.Context.normalize_of_inputText read ?_),
    Canonical.Policy.length_form_le reachable.configured.standard _ text⟩
  have room := session.engine.context.two_le_bufferSize
  change (1 : Int) ≤ session.engine.context.bufferSize
  omega

theorem exists_judges {config : Config} {session : Session} (reachable : Reachable config session)
    (live : session.engine.initialized = true) {data : Datum} (content : data.HasContent)
    (short : ∀ text, Canonical.inputText data = .ok text → text.length ≤ 2 ^ 900)
    (quiet : ¬ session.engine.Raises data) : ∃ form, session.engine.Judges data form := by
  obtain ⟨text, read, nonempty⟩ := Canonical.hasContent_iff.mp content
  obtain ⟨form, normalized, length⟩ := exists_form reachable read
  have consistent := reachable.consistent
  have processed := process_normalized live read nonempty normalized
  have judged : (session.engine.validate data).1 =
      (session.engine.process data).1.bind (checkOutcome session.engine.zeroTrust) := rfl
  by_cases rejected : (form.truncated && session.engine.config.rejectTruncated) = true
  · rw [processed, if_pos rejected] at judged
    refine ⟨form, normalized, fun _ => ⟨_, judged, rfl⟩, fun complete => ?_⟩
    obtain ⟨truncated, rejects⟩ := (Bool.and_eq_true _ _).mp rejected
    exact absurd ⟨truncated, .inr rejects⟩ complete
  rw [if_neg rejected] at processed
  rcases Scan.scan_cases (fun state member => (consistent.rules state member).2.2)
    (Nat.le_trans length (short text read)) initialState with
    ⟨outcome, scanned, cost⟩ | ⟨message, raised, raises⟩
  · have canonical := Scan.scan_canonical scanned
    have accepts := Scan.accepted_iff consistent.numbered consistent.accepting scanned
    have charged := Governance.charge_atMost cost session.engine.accumulated
    rw [processed] at judged
    simp only [scanForm, scanned, charged, Except.bind, checkOutcome, canonical] at judged
    refine ⟨form, normalized, ?_, fun complete => ⟨outcome, scanned, ?_⟩⟩
    · rintro ⟨truncated, mode⟩
      have strict : session.engine.zeroTrust = true := by
        rcases mode with strict | rejects
        · exact strict
        · exact absurd ((Bool.and_eq_true _ _).mpr ⟨truncated, rejects⟩) rejected
      rw [judged, strict, truncated]
      exact ⟨_, rfl, rfl⟩
    · have passes : (session.engine.zeroTrust && form.truncated) = false := by
        rcases not_refuses_iff.mp complete with whole | ⟨mode, _⟩
        · rw [whole, Bool.and_false]
        · rw [mode, Bool.false_and]
      rw [judged, passes, if_neg Bool.false_ne_true]
      refine ⟨fun accepted => if_pos (accepts.mpr accepted), fun rejected => ?_⟩
      rw [if_neg fun accepted => rejected (accepts.mp accepted)]
      exact ⟨_, rfl, rfl⟩
  · refine absurd ⟨message, ?_, raises⟩ quiet
    rw [processed]
    simp only [scanForm, raised]

/-- The gate of an engine in use. Without content there is nothing to validate. Otherwise, unless a
validator raises, a form that is cut off is a violation if the engine is under zero trust or rejects
truncation, any other input fails if the last record of its scan does not complete a message, and
all others are validated. A text of more than `2 ^ 900` characters, which no memory holds, would
cost infinitely much. -/
theorem validate_gate {config : Config} {session : Session} (reachable : Reachable config session)
    (live : session.engine.initialized = true) :
    let engine := session.engine
    (∀ data : Datum, ¬ data.HasContent →
      ∃ fault, (engine.validate data).1 = .error (.fault fault) ∧ fault.kind = .invalidInput) ∧
    (∀ data : Datum, ¬ engine.Raises data →
      (∀ text, Canonical.inputText data = .ok text → text.length ≤ 2 ^ 900) →
      (data.HasContent → ∃ form, engine.Judges data form) ∧
      ((∃ result, (engine.validate data).1 = .ok result) ↔
        data.HasContent ∧ ∃ form outcome, (engine.context.normalize data).1 = .ok form ∧
          scan engine.registry.ignoreCase form engine.registry.states initialState =
            .ok outcome ∧
          outcome.EndsAccepting ∧
          (form.truncated = false ∨
            engine.zeroTrust = false ∧ engine.config.rejectTruncated = false))) ∧
    (engine.zeroTrust = true → ∀ data result, (engine.validate data).1 = .ok result →
      result.canonical.truncated = false) ∧
    (engine.config.rejectTruncated = true → ∀ data outcome,
      (engine.process data).1 = .ok outcome → outcome.status ≠ .truncated) := by
  intro engine
  have invalid (data : Datum) (without : ¬ data.HasContent) :
      ∃ fault, (engine.validate data).1 = .error (.fault fault) ∧ fault.kind = .invalidInput := by
    obtain ⟨fault, refused, kind⟩ := process_invalid live without
    refine ⟨fault, ?_, kind⟩
    change (engine.process data).1.bind (checkOutcome engine.zeroTrust) = _
    rw [refused]
    rfl
  refine ⟨invalid, fun data quiet short => ⟨fun content => ?_, ?_, ?_⟩,
    fun mode data result validated => ?_, fun rejects data outcome processed => ?_⟩
  · exact exists_judges reachable live content short quiet
  · rintro ⟨result, validated⟩
    have content : data.HasContent := Classical.byContradiction fun without => by
      obtain ⟨fault, refused, _⟩ := invalid data without
      rw [refused] at validated
      contradiction
    obtain ⟨form, judges⟩ := exists_judges reachable live content short quiet
    obtain ⟨complete, outcome, scanned, accepted⟩ := judges.validate_iff.mp ⟨result, validated⟩
    exact ⟨content, form, outcome, judges.normalized, scanned, accepted,
      not_refuses_iff.mp complete⟩
  · rintro ⟨content, form, outcome, normalized, scanned, accepted, lenient⟩
    obtain ⟨again, judges⟩ := exists_judges reachable live content short quiet
    obtain rfl := Except.ok.inj (normalized.symm.trans judges.normalized)
    exact judges.validate_iff.mpr ⟨not_refuses_iff.mpr lenient, outcome, scanned, accepted⟩
  · obtain ⟨_, complete, _⟩ := validate_ok validated
    simpa [mode] using complete
  · have complete := process_complete rejects processed
    unfold ScanOutcome.status
    rw [complete, if_neg Bool.false_ne_true]
    split
    · exact fun same => by contradiction
    · split <;> exact fun same => by contradiction

@[irreducible]
def payloadSession (config : Config) : Session :=
  (new config).run [.start true,
    .register (.text "data_payload".toList) (some "a+".toList) none,
    .register (.text "security_token".toList) (some "b+".toList)
      (some fun content => if content = ['b'] then .ok true else .error "twice".toList)]

theorem validate_gate_narrow :
    ∃ session : Session, Reachable { canonicalBufferSize := 4 } session ∧
      session.engine.initialized = true ∧
      (∃ form outcome, (session.engine.context.normalize (.text "bca".toList)).1 = .ok form ∧
        scan session.engine.registry.ignoreCase form session.engine.registry.states initialState =
          .ok outcome ∧
        outcome.EndsAccepting ∧ form.truncated = false) ∧
      (∃ fault, (session.engine.validate (.text "bcaa".toList)).1 = .error (.fault fault) ∧
        fault.kind = .zeroTrustViolation) ∧
      ∃ fault, (session.engine.validate (.bytes [])).1 = .error (.fault fault) ∧
        fault.kind = .invalidInput := by
  obtain ⟨session, reachable, live, strict, validated, scanned, cut⟩ :
      ∃ session : Session, Reachable { canonicalBufferSize := 4 } session ∧
        session.engine.initialized = true ∧ session.engine.zeroTrust = true ∧
        (session.engine.validate (.text "bca".toList)).1.toOption.isSome = true ∧
        (session.engine.process (.text "bcaa".toList)).1.toOption.isSome = true ∧
        (session.engine.context.normalize (.text "bcaa".toList)).1.toOption.map
          Canonical.Form.truncated = some true := by
    refine ⟨payloadSession { canonicalBufferSize := 4 }, ?_, by decide +kernel⟩
    unfold payloadSession
    exact reachable_run _ _
  obtain ⟨invalid, gate, _, _⟩ := validate_gate reachable live
  have short {given text : Text} (few : given.length ≤ 900)
      (read : Canonical.inputText (.text given) = .ok text) : text.length ≤ 2 ^ 900 := by
    obtain rfl := Except.ok.inj read
    omega
  refine ⟨session, reachable, live, ?_, ?_, ?_⟩
  · obtain ⟨result, answered⟩ := Option.isSome_iff_exists.mp validated
    have validated := eq_ok_of_toOption answered
    have quiet := not_raises_of_process (validate_ok validated).1
    obtain ⟨_, decided⟩ := gate (.text "bca".toList) quiet fun _ read => short (by decide) read
    obtain ⟨_, form, outcome, normalized, scanned, accepted, complete | ⟨mode, _⟩⟩ :=
      decided.mp ⟨result, validated⟩
    · exact ⟨form, outcome, normalized, scanned, accepted, complete⟩
    · rw [strict] at mode
      contradiction
  · obtain ⟨outcome, answered⟩ := Option.isSome_iff_exists.mp scanned
    have quiet := not_raises_of_process (eq_ok_of_toOption answered)
    obtain ⟨judges, _⟩ := gate (.text "bcaa".toList) quiet fun _ read => short (by decide) read
    obtain ⟨form, verdict⟩ := judges (.inl ⟨_, rfl, by decide⟩)
    rw [verdict.normalized] at cut
    exact verdict.violates ⟨Option.some.inj cut, .inl strict⟩
  · refine invalid (.bytes []) ?_
    rintro (⟨text, same, _⟩ | ⟨bytes, same | same, nonempty⟩)
    · contradiction
    · obtain rfl := Datum.bytes.inj same
      exact nonempty rfl
    · contradiction

theorem validate_byteBuffer :
    ¬ (((payloadSession {}).engine.validate (.byteBuffer [97])).1.isOk = true →
      (∃ text, Datum.byteBuffer [97] = .text text ∧ text ≠ []) ∨
        ∃ bytes, Datum.byteBuffer [97] = .bytes bytes ∧ bytes ≠ []) := by
  intro claimed
  rcases claimed (by decide +kernel) with ⟨text, same, _⟩ | ⟨bytes, same, _⟩ <;> contradiction

end Session

end ProtocolGate
