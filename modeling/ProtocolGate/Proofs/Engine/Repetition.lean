import ProtocolGate.Proofs.Engine.Batch
import ProtocolGate.Proofs.Engine.Lifecycle
import ProtocolGate.Proofs.Scan.Outcome

/-!
Repeated rules. A state without a validator takes whatever its rule matches, so a later state with
the same rule is only asked about texts that the rule does not match. Main result: such a state can
be left out of a scan; the header that the standard patterns bring along is one.
-/

namespace ProtocolGate

namespace Scan

variable {ignoreCase : Bool} {first repeated : State} {before between after : List State}

/-- A rule compiles, and it matches nothing at the head of a text. -/
def Passes (ignoreCase : Bool) (rule text : Text) : Prop :=
  ∃ compiled, Pattern.compile ignoreCase rule = .ok compiled ∧
    (compiled.matchLength? text = none ∨ compiled.matchLength? text = some 0)

theorem firstMatch_cons_of_passes {state : State} {text : Text}
    (passes : Passes ignoreCase state.rule text) (others : List State) :
    firstMatch (candidates ignoreCase (state :: others)) text =
      firstMatch (candidates ignoreCase others) text := by
  obtain ⟨compiled, compiles, unmatched⟩ := passes
  rcases unmatched with unmatched | unmatched <;>
    simp [candidates, firstMatch, compiles, unmatched]

theorem firstMatch_cons_of_plain (plain : first.validator = none) (text : Text) :
    Passes ignoreCase first.rule text ∨
      ∀ others, firstMatch (candidates ignoreCase (first :: others)) text =
        firstMatch (candidates ignoreCase [first]) text := by
  cases compiles : Pattern.compile ignoreCase first.rule with
  | error cause =>
      right
      intro others
      simp [candidates, firstMatch, compiles]
  | ok compiled =>
      cases matched : compiled.matchLength? text with
      | none => exact .inl ⟨compiled, compiles, .inl matched⟩
      | some length =>
          cases length with
          | zero => exact .inl ⟨compiled, compiles, .inr matched⟩
          | succ length =>
              right
              intro others
              simp [candidates, firstMatch, compiles, matched, verdict, plain]

theorem firstMatch_append_congr {left right : List State} {text : Text}
    (same : firstMatch (candidates ignoreCase left) text =
      firstMatch (candidates ignoreCase right) text) (before : List State) :
    firstMatch (candidates ignoreCase (before ++ left)) text =
      firstMatch (candidates ignoreCase (before ++ right)) text := by
  induction before with
  | nil => exact same
  | cons state before ih =>
      simp only [candidates] at ih
      simp only [candidates, List.cons_append, List.map_cons, firstMatch, ih]

theorem firstMatch_repeated (plain : first.validator = none) (same : repeated.rule = first.rule)
    (text : Text) :
    firstMatch (candidates ignoreCase (before ++ first :: between ++ repeated :: after)) text =
      firstMatch (candidates ignoreCase (before ++ first :: between ++ after)) text := by
  rw [List.append_assoc, List.append_assoc]
  apply firstMatch_append_congr
  rw [List.cons_append, List.cons_append]
  -- Either the first state settles the search, or its rule passes, and with it the repeated one.
  have decided : Passes ignoreCase first.rule text ∨ _ := firstMatch_cons_of_plain plain text
  rcases decided with passes | decides
  · rw [firstMatch_cons_of_passes passes, firstMatch_cons_of_passes passes]
    apply firstMatch_append_congr
    rw [← same] at passes
    exact firstMatch_cons_of_passes passes after
  · exact (decides _).trans (decides _).symm

theorem id_ne_repeated {kept : List State}
    (distinct : ((kept ++ repeated :: after).map State.id).Nodup) :
    ∀ state ∈ kept ++ after, state.id ≠ repeated.id := by
  have moved : (kept ++ repeated :: after).Perm (repeated :: (kept ++ after)) := List.perm_middle
  have apart := (moved.map State.id).nodup_iff.mp distinct
  rw [List.map_cons, List.nodup_cons] at apart
  intro state member same
  rw [← same] at apart
  exact apart.1 (List.mem_map_of_mem member)

theorem scan_drop_repeated
    (distinct : ((before ++ first :: between ++ repeated :: after).map State.id).Nodup)
    (plain : first.validator = none) (same : repeated.rule = first.rule) (form : Canonical.Form)
    (initialState : Int) :
    scan ignoreCase form (before ++ first :: between ++ repeated :: after) initialState =
      scan ignoreCase form (before ++ first :: between ++ after) initialState := by
  apply scan_congr (firstMatch_repeated plain same)
  intro state member
  have different := (id_ne_repeated distinct state member).symm
  simp [List.find?_append, List.find?_cons, different]

theorem repeated_not_matched
    (distinct : ((before ++ first :: between ++ repeated :: after).map State.id).Nodup)
    (plain : first.validator = none) (same : repeated.rule = first.rule) {form : Canonical.Form}
    {initialState : Int} {outcome : ScanOutcome}
    (scanned : scan ignoreCase form (before ++ first :: between ++ repeated :: after)
      initialState = .ok outcome) : repeated.id ∉ outcome.matchedStates := by
  rw [scan_drop_repeated distinct plain same] at scanned
  intro matched
  obtain ⟨state, member, sameId⟩ := scan_matchedStates_mem scanned matched
  exact id_ne_repeated distinct state member sameId

theorem scan_sources {states : List State} {form : Canonical.Form} {initialState : Int}
    {outcome : ScanOutcome} (scanned : scan ignoreCase form states initialState = .ok outcome) :
    outcome.records.map Record.source = outcome.matchedStates := by
  obtain ⟨segments, _, rfl⟩ := exists_of_map_ok scanned
  simp only [ScanOutcome.ofSegments, records_eq, matchedStates_eq, List.map_map]
  rfl

end Scan

namespace Engine

theorem Path.exists_scan {engine after : Engine} {outcome : ScanOutcome}
    (path : Path engine [.scanned outcome] after) :
    ∃ form, scan engine.registry.ignoreCase form engine.registry.states initialState =
      .ok outcome := by
  generalize single : [Event.scanned outcome] = events at path
  induction path with
  | done => contradiction
  | held text _ _ ih => exact ih single
  | step step _ _ =>
      obtain ⟨rfl, rfl⟩ := List.cons.inj single
      cases step with
      | scanned _ scanned _ => exact ⟨_, scanned⟩

theorem exists_scan_of_process {engine : Engine} {data : Datum} {outcome : ScanOutcome}
    (processed : (engine.process data).1 = .ok outcome) :
    ∃ form, scan engine.registry.ignoreCase form engine.registry.states initialState =
      .ok outcome := by
  have path := engine.process_path data
  rw [processed] at path
  exact path.exists_scan

theorem initialized_of_process {engine : Engine} {data : Datum} {outcome : ScanOutcome}
    (processed : (engine.process data).1 = .ok outcome) : engine.initialized = true := by
  cases live : engine.initialized with
  | true => rfl
  | false => simp [process, live] at processed

/-- In an engine that is in use, a state with the rule of the header that is not the first one never
takes anything. -/
theorem Live.header_not_matched {config : Config} {events : List Event} {engine : Engine}
    (live : engine.Live config events) {state : State} (member : state ∈ engine.registry.states)
    (rule : state.rule = StandardRule.header) (later : state.id ≠ initialState) {data : Datum}
    {outcome : ScanOutcome} (processed : (engine.process data).1 = .ok outcome) :
    state.id ∉ outcome.matchedStates ∧ ∀ record ∈ outcome.records, record.source ≠ state.id := by
  obtain ⟨form, scanned⟩ := exists_scan_of_process processed
  obtain ⟨count, others, shape, _⟩ := live.opened.states
  have distinct := Registry.Numbered.nodup live.opened.ids
  rw [shape] at member distinct
  rcases List.mem_cons.mp member with rfl | member
  · exact absurd rfl later
  obtain ⟨between, after, rfl⟩ := List.append_of_mem member
  have parted (header : State) : header :: (between ++ state :: after) =
      [] ++ header :: between ++ state :: after := rfl
  have unmatched : state.id ∉ outcome.matchedStates := by
    rw [shape, parted] at scanned
    rw [parted] at distinct
    exact Scan.repeated_not_matched distinct rfl rule scanned
  refine ⟨unmatched, ?_⟩
  intro record listed same
  rw [← Scan.scan_sources scanned, ← same] at unmatched
  exact unmatched (List.mem_map_of_mem listed)

theorem appendAll_getElem? (engine : Engine) (pattern : PatternType × Text)
    (others : List (PatternType × Text)) :
    (engine.appendAll (pattern :: others)).registry.states[engine.registry.states.length]? =
      some (engine.registry.newState pattern.1 pattern.2 none none) := by
  simp [appendAll, Registry.appendAll, Registry.fresh, Registry.newState]

end Engine

namespace Session

open Engine

theorem Reachable.registerStandard_header {config : Config} {session : Session}
    (reachable : Reachable config session) (live : session.engine.initialized = true)
    (room : session.engine.registry.states.length < config.maxStates) :
    let next := session.engine.registry.states.length
    (session.engine.registerStandard true).2.registry.states[next]? =
      some (session.engine.registry.newState .protocolHeader StandardRule.header none none) := by
  dsimp only
  obtain ⟨others, shape⟩ : ∃ others,
      standardPatterns true = (.protocolHeader, StandardRule.header) :: others :=
    ⟨_, rfl⟩
  have outcome := registerEach_admitted live fun pattern member =>
    reachable.admits_standard live ((standardPatterns_sublist true).mem member)
  rw [registerStandard, outcome]
  split
  · rw [shape]
    exact appendAll_getElem? _ _ _
  · obtain ⟨left, free⟩ : ∃ left, session.engine.registry.room = left + 1 := by
      apply Nat.exists_eq_succ_of_ne_zero
      rw [reachable.room]
      omega
    rw [shape, free, List.take_succ_cons]
    exact appendAll_getElem? _ _ _

/-- A state with the rule of an earlier one that has no validator can be left out of a scan, of
whatever type it is, whatever its validator does, and wherever the scan begins. In an engine the
header that the standard patterns bring along is such a state: it never takes a part of a text. -/
theorem repeated_rule_unused :
    (∀ (ignoreCase : Bool) (before : List State) (first : State) (between : List State)
      (repeated : State) (after : List State),
      ((before ++ first :: between ++ repeated :: after).map State.id).Nodup →
      first.validator = none → repeated.rule = first.rule →
      ∀ (form : Canonical.Form) (initialState : Int),
        scan ignoreCase form (before ++ first :: between ++ repeated :: after) initialState =
          scan ignoreCase form (before ++ first :: between ++ after) initialState) ∧
    ∀ (config : Config) (operations : List Operation),
      let session := (new config).run operations
      let states := session.engine.registry.states
      (session.engine.initialized = true → states.length < config.maxStates →
        ∃ added ∈ (session.perform (.registerStandard true)).2.engine.registry.states,
          added.id = states.length ∧ added.rule = StandardRule.header ∧
            added.id ≠ initialState) ∧
      ∀ state ∈ states, state.rule = StandardRule.header → state.id ≠ initialState →
        ∀ data outcome, (session.engine.process data).1 = .ok outcome →
          state.id ∉ outcome.matchedStates ∧
            ∀ record ∈ outcome.records, record.source ≠ state.id := by
  constructor
  · intro ignoreCase before first between repeated after distinct plain same
    exact Scan.scan_drop_repeated distinct plain same
  intro config operations
  dsimp only
  have reachable := reachable_run config operations
  constructor
  · intro initialized room
    have added := reachable.registerStandard_header initialized room
    obtain ⟨count, others, shape, _⟩ := (run_live initialized).opened.states
    refine ⟨_, List.mem_of_getElem? added, rfl, rfl, ?_⟩
    simp only [Registry.newState, initialState, shape, List.length_cons]
    omega
  · intro state member rule later data outcome processed
    have live := run_live (initialized_of_process processed)
    exact live.header_not_matched member rule later processed

def repeatedStates : List State :=
  [{ id := 0, patternType := .securityToken, rule := ['a'], accepting := false
     requiresZeroTrust := true },
    { id := 1, patternType := .dataPayload, rule := ['b'], accepting := true
      requiresZeroTrust := true },
    { id := 2, patternType := .auditMarker, rule := ['a'], accepting := true
      requiresZeroTrust := true, validator := some fun _ => .error "asked".toList }]

@[irreducible]
def openingRun : List Operation :=
  [.start true]

theorem repeated_rule_unused_twice :
    (∃ outcome, scan true { text := "xa".toList } repeatedStates 2 = .ok outcome ∧
      scan true { text := "xa".toList } (repeatedStates.take 2) 2 = .ok outcome ∧
      outcome.finalState = 0) ∧
    ∃ added outcome,
      added ∈ ((new {}).run (openingRun ++ [.registerStandard true])).engine.registry.states ∧
      added.id = 1 ∧ added.rule = StandardRule.header ∧
      (((new {}).run (openingRun ++ [.registerStandard true])).engine.process
        (.text "OBI-PROTOCOL-1.0:OBI-PROTOCOL-2.0:".toList)).1 = .ok outcome ∧
      outcome.matchedStates = [0, 0] ∧ ∀ record ∈ outcome.records, record.source ≠ added.id := by
  obtain ⟨drop, headers⟩ := repeated_rule_unused
  constructor
  · have dropped := drop true [] repeatedStates[0] [repeatedStates[1]] repeatedStates[2] []
      (by decide) rfl rfl { text := "xa".toList } 2
    have computed : (scan true { text := "xa".toList } (repeatedStates.take 2) 2).toOption.map
        ScanOutcome.finalState = some 0 := by
      decide +kernel
    obtain ⟨outcome, scanned, final⟩ := Option.map_eq_some_iff.mp computed
    have scanned := eq_ok_of_toOption scanned
    exact ⟨outcome, dropped.trans scanned, scanned, final⟩
  · have computed : ((new {}).run openingRun).engine.initialized = true ∧
        ((new {}).run openingRun).engine.registry.states.length = 1 ∧
        (((new {}).run (openingRun ++ [.registerStandard true])).engine.process
          (.text "OBI-PROTOCOL-1.0:OBI-PROTOCOL-2.0:".toList)).1.toOption.map
          ScanOutcome.matchedStates = some [0, 0] := by
      decide +kernel
    obtain ⟨initialized, one, answered⟩ := computed
    have room : ((new {}).run openingRun).engine.registry.states.length <
        ({} : Config).maxStates := by
      rw [one]
      decide
    obtain ⟨outcome, processed, matched⟩ := Option.map_eq_some_iff.mp answered
    have processed := eq_ok_of_toOption processed
    obtain ⟨added, listed, id, rule, later⟩ := (headers {} openingRun).1 initialized room
    rw [one] at id
    have registered : ((new {}).run (openingRun ++ [.registerStandard true])) =
        (((new {}).run openingRun).perform (.registerStandard true)).2 := by
      rw [run, List.foldl_append]
      rfl
    rw [← registered] at listed
    have unread := (headers {} (openingRun ++ [.registerStandard true])).2 added listed rule later
      _ outcome processed
    exact ⟨added, outcome, listed, id, rule, processed, matched, unread.2⟩

end Session

end ProtocolGate
