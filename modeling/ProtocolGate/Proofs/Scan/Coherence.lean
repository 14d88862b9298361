import ProtocolGate.Proofs.Scan.Outcome

/-!
The parts of a scan's outcome agree. The status goes by the list of records and by a counter, the
verdict by the id of a state, the final state by the last match; yet each of them can be read off
the records and the text. What carries this is that a scan neither loses nor invents a character,
and that a registry never gives an id to a second state.
-/

namespace ProtocolGate

namespace Registry

/-- A registry held a state at some point of the calls on it. -/
def Held (registry : Registry) (calls : List Call) (state : State) : Prop :=
  ∃ earlier, earlier <+: calls ∧ state ∈ (registry.run earlier).states

variable {registry : Registry} {calls : List Call} {state first second : State}

theorem Held.compiles (consistent : registry.Consistent) (held : registry.Held calls state) :
    ∃ compiled, Pattern.compile registry.ignoreCase state.rule = .ok compiled := by
  obtain ⟨earlier, _, member⟩ := held
  have rules := (run_consistent consistent earlier).rules state member
  rw [(run_settings registry earlier).1] at rules
  exact rules.2.2

theorem Held.accepting (consistent : registry.Consistent) (held : registry.Held calls state) :
    state.accepting = state.patternType.isAccepting := by
  obtain ⟨earlier, _, member⟩ := held
  exact (run_consistent consistent earlier).accepting state member

theorem Held.kept (consistent : registry.Consistent) (held : registry.Held calls state) :
    ∃ index count, state.id = (index : Nat) ∧
      (registry.run calls).states[index]? = some { state with transitionCount := count } := by
  obtain ⟨earlier, ⟨later, rfl⟩, member⟩ := held
  obtain ⟨index, found⟩ := List.mem_iff_getElem?.mp member
  obtain ⟨count, kept⟩ := run_states later found
  refine ⟨index, count, (run_consistent consistent earlier).numbered index state found, ?_⟩
  rw [run, List.foldl_append]
  exact kept

theorem perform_validator (call : Call) (member : state ∈ (registry.perform call).states) :
    (∃ old ∈ registry.states, old.validator = state.validator) ∨
      ∃ patternType rule stamp, call = .register patternType rule state.validator stamp := by
  cases call with
  | register patternType rule validator stamp =>
      simp only [perform] at member
      split at member
      · rename_i registered
        obtain ⟨known, text, _, _, _, _, _, _, shape, rfl⟩ := register_ok registered
        rcases List.mem_append.mp member with old | new
        · exact .inl ⟨state, old, rfl⟩
        · obtain rfl := List.mem_singleton.mp new
          rw [shape]
          exact .inr ⟨patternType, rule, stamp, rfl⟩
      · exact .inl ⟨state, member, rfl⟩
  | addTransition source target symbol weight validator =>
      simp only [perform] at member
      split at member
      · rename_i declared
        obtain ⟨_, _, _, _, _, _, _, rfl⟩ := addTransition_ok declared
        obtain ⟨old, listed, rfl⟩ := List.mem_map.mp member
        obtain ⟨count, counted⟩ := countTransition_eq source old
        rw [counted]
        exact .inl ⟨old, listed, rfl⟩
      · exact .inl ⟨state, member, rfl⟩

theorem run_validator (calls : List Call) (member : state ∈ (registry.run calls).states) :
    (∃ old ∈ registry.states, old.validator = state.validator) ∨
      ∃ patternType rule stamp, .register patternType rule state.validator stamp ∈ calls := by
  induction calls generalizing registry with
  | nil => exact .inl ⟨state, member, rfl⟩
  | cons call later ih =>
      rcases ih member with ⟨middle, before, same⟩ | ⟨patternType, rule, stamp, asked⟩
      · rcases perform_validator call before with ⟨old, listed, kept⟩ |
          ⟨patternType, rule, stamp, rfl⟩
        · exact .inl ⟨old, listed, kept.trans same⟩
        · rw [same]
          exact .inr ⟨patternType, rule, stamp, List.mem_cons_self⟩
      · exact .inr ⟨patternType, rule, stamp, List.mem_cons_of_mem call asked⟩

theorem Held.eq_of_id (consistent : registry.Consistent) (firstHeld : registry.Held calls first)
    (secondHeld : registry.Held calls second) (same : first.id = second.id) :
    first = { second with transitionCount := first.transitionCount } := by
  obtain ⟨index, count, firstId, firstFound⟩ := firstHeld.kept consistent
  obtain ⟨other, counted, secondId, secondFound⟩ := secondHeld.kept consistent
  obtain rfl : index = other := by omega
  rw [firstFound] at secondFound
  exact congrArg (fun state : State => { state with transitionCount := first.transitionCount })
    (Option.some.inj secondFound)

end Registry

namespace Scan

theorem firstMatch_pos {tried : List Candidate} {text : Text} {state : State} {length : Nat}
    (found : firstMatch tried text = .ok (some (state, length))) : 0 < length := by
  induction tried with
  | nil => simp [firstMatch] at found
  | cons candidate others ih =>
      unfold firstMatch at found
      split at found
      · contradiction
      · split at found
        · exact ih found
        · exact ih found
        · rename_i size nonzero _
          split at found
          · contradiction
          · obtain ⟨_, rfl⟩ := Prod.mk.inj (Option.some.inj (Except.ok.inj found))
            exact Nat.pos_of_ne_zero nonzero
          · exact ih found

theorem segmentsFrom_covers {tried : List Candidate} {rounds : Nat} {text : Text}
    {segments : List Segment} (enough : text.length ≤ rounds)
    (cut : segmentsFrom tried rounds text = .ok segments) :
    segments.flatMap Segment.content = text ∧ ∀ segment ∈ segments, segment.content ≠ [] := by
  induction rounds generalizing text segments with
  | zero =>
      obtain rfl := Except.ok.inj cut
      obtain rfl := List.eq_nil_of_length_eq_zero (Nat.le_zero.mp enough)
      simp
  | succ rounds ih =>
      cases text with
      | nil =>
          obtain rfl := Except.ok.inj cut
          simp
      | cons c rest =>
          rw [List.length_cons] at enough
          simp only [segmentsFrom] at cut
          split at cut
          · contradiction
          · obtain ⟨later, tail, rfl⟩ := exists_of_map_ok cut
            obtain ⟨covers, nonempty⟩ := ih (by omega) tail
            constructor
            · rw [List.flatMap_cons, covers]
              rfl
            · simpa [Segment.content] using nonempty
          · rename_i state length found
            obtain ⟨later, tail, rfl⟩ := exists_of_map_ok cut
            have positive := firstMatch_pos found
            have short : ((c :: rest).drop length).length ≤ rounds := by
              rw [List.length_drop, List.length_cons]
              omega
            obtain ⟨covers, nonempty⟩ := ih short tail
            constructor
            · rw [List.flatMap_cons, covers]
              exact List.take_append_drop length (c :: rest)
            · intro segment member
              rcases List.mem_cons.mp member with rfl | member
              · have taken : (c :: rest).take length ≠ [] := by
                  simp [Nat.ne_of_gt positive]
                exact taken
              · exact nonempty segment member

theorem content_eq_of_unskipped {segments : List Segment}
    (unskipped : segments.countP Segment.isSkipped = 0) :
    (segments.filterMap Segment.record?).flatMap Record.content =
      segments.flatMap Segment.content := by
  induction segments with
  | nil => rfl
  | cons segment later ih =>
      cases segment with
      | skipped c => simp [Segment.isSkipped] at unskipped
      | matched state content =>
          have rest : later.countP Segment.isSkipped = 0 := by
            simpa [Segment.isSkipped] using unskipped
          rw [List.flatMap_cons, ← ih rest]
          rfl

end Scan

namespace ScanOutcome

structure Accounts (outcome : ScanOutcome) (text : Text) : Prop where
  total : (outcome.records.flatMap Record.content).length + outcome.unmatched = text.length
  whole : outcome.unmatched = 0 → outcome.records.flatMap Record.content = text
  nonempty : ∀ record ∈ outcome.records, record.content ≠ []

variable {outcome : ScanOutcome} {text : Text}

theorem Accounts.records_eq_nil_iff (accounts : outcome.Accounts text) :
    outcome.records = [] ↔ outcome.unmatched = text.length := by
  have total := accounts.total
  constructor
  · intro none
    simpa [none] using total
  · intro all
    have none : outcome.records.flatMap Record.content = [] :=
      List.eq_nil_of_length_eq_zero (by omega)
    rw [List.flatMap_eq_nil_iff] at none
    apply List.eq_nil_iff_forall_not_mem.mpr
    intro record member
    exact accounts.nonempty record member (none record member)

theorem Accounts.content_eq_iff (accounts : outcome.Accounts text) :
    outcome.records.flatMap Record.content = text ↔ outcome.unmatched = 0 := by
  constructor
  · intro whole
    have total := accounts.total
    rw [whole] at total
    omega
  · exact accounts.whole

/-- All that an outcome says, as it follows from its records, the text and where the scan began. -/
structure Coherent (outcome : ScanOutcome) (form : Canonical.Form) (initialState : Int) : Prop where
  finalState : outcome.finalState =
    (outcome.records.getLast?.map Record.source).getD initialState
  accepted : outcome.accepted = true ↔ outcome.EndsAccepting
  truncated : form.truncated = true → outcome.status = .truncated
  noMatch : form.truncated = false →
    (outcome.status = .noMatch ↔ outcome.unmatched = form.text.length)
  complete : form.truncated = false →
    (outcome.status = .complete ↔
      form.text ≠ [] ∧ outcome.records.flatMap Record.content = form.text)
  part : form.truncated = false →
    (outcome.status = .part ↔ 0 < outcome.unmatched ∧ outcome.unmatched < form.text.length)

theorem status_of_whole (whole : outcome.canonical.truncated = false) :
    outcome.status =
      if outcome.records = [] then .noMatch
      else if outcome.unmatched = 0 then .complete
      else .part := by
  simp [status, whole]

theorem Accounts.status_noMatch_iff (accounts : outcome.Accounts text)
    (whole : outcome.canonical.truncated = false) :
    outcome.status = .noMatch ↔ outcome.unmatched = text.length := by
  rw [status_of_whole whole, ← accounts.records_eq_nil_iff]
  by_cases none : outcome.records = []
  · simp [none]
  · by_cases all : outcome.unmatched = 0 <;> simp [none, all]

theorem Accounts.status_complete_iff (accounts : outcome.Accounts text)
    (whole : outcome.canonical.truncated = false) :
    outcome.status = .complete ↔
      text ≠ [] ∧ outcome.records.flatMap Record.content = text := by
  have skips := accounts.records_eq_nil_iff
  have empty : text = [] ↔ text.length = 0 := List.length_eq_zero_iff.symm
  rw [status_of_whole whole, accounts.content_eq_iff, ne_eq, empty]
  by_cases none : outcome.records = []
  · have all := skips.mp none
    simp only [none, if_true, reduceCtorEq, false_iff]
    omega
  · have some : outcome.unmatched ≠ text.length := fun all => none (skips.mpr all)
    by_cases all : outcome.unmatched = 0
    · simp only [none, all, if_true, if_false, true_iff, and_true]
      omega
    · simp [none, all]

theorem Accounts.status_part_iff (accounts : outcome.Accounts text)
    (whole : outcome.canonical.truncated = false) :
    outcome.status = .part ↔ 0 < outcome.unmatched ∧ outcome.unmatched < text.length := by
  have skips := accounts.records_eq_nil_iff
  have total := accounts.total
  rw [status_of_whole whole]
  by_cases none : outcome.records = []
  · have all := skips.mp none
    simp only [none, if_true, reduceCtorEq, false_iff]
    omega
  · have some : outcome.unmatched ≠ text.length := fun all => none (skips.mpr all)
    by_cases all : outcome.unmatched = 0
    · simp [none, all]
    · simp only [none, all, if_false, true_iff]
      omega

end ScanOutcome

namespace Scan

variable {ignoreCase : Bool} {states : List State} {form : Canonical.Form} {initialState : Int}
  {outcome : ScanOutcome}

theorem scan_accounts (scanned : scan ignoreCase form states initialState = .ok outcome) :
    outcome.Accounts form.text := by
  obtain ⟨segments, cut, rfl⟩ := exists_of_map_ok scanned
  obtain ⟨covers, nonempty⟩ := segmentsFrom_covers (Nat.le_refl _) cut
  constructor
  · rw [← covers]
    exact length_flatMap_content segments
  · intro unskipped
    rw [← covers]
    exact content_eq_of_unskipped unskipped
  · intro record member
    obtain ⟨segment, inside, matched⟩ := List.mem_filterMap.mp member
    have content := nonempty segment inside
    cases segment with
    | skipped c => contradiction
    | matched state text =>
        obtain rfl := Option.some.inj matched
        exact content

theorem scan_finalState_eq (scanned : scan ignoreCase form states initialState = .ok outcome) :
    outcome.finalState = (outcome.records.getLast?.map Record.source).getD initialState := by
  obtain ⟨segments, _, rfl⟩ := exists_of_map_ok scanned
  simp only [ScanOutcome.ofSegments, records_eq, matchedStates_eq, List.getLast?_map,
    Option.map_map]
  rfl

/-- A scan with states of one registry returns if their validators do, and what any scan with them
returns is coherent, wherever it begins. The states stand in any order, some of them several times,
and each of them as the registry held it at any time. -/
theorem scan_coherent {zeroTrust : Bool} {limits : Limits} {calls : List Registry.Call}
    (held : ∀ state ∈ states, Registry.Held { ignoreCase, zeroTrust, limits } calls state)
    (returns : ∀ state ∈ states, ∀ validator, state.validator = some validator →
      ∀ content, ∃ accepted, validator content = .ok accepted)
    (form : Canonical.Form) (initialState : Int) :
    (∃ outcome, scan ignoreCase form states initialState = .ok outcome) ∧
    ∀ foldsCase outcome, scan foldsCase form states initialState = .ok outcome →
      outcome.Coherent form initialState := by
  have consistent := Registry.consistent_empty ignoreCase zeroTrust limits
  constructor
  · have compiles : ∀ state ∈ states, ∃ compiled,
        Pattern.compile ignoreCase state.rule = .ok compiled := by
      intro state member
      simpa only using (held state member).compiles consistent
    have ready : Ready ignoreCase states := ⟨compiles, returns⟩
    obtain ⟨_, outcome, scanned, _⟩ := scan_segmentation ready form initialState
    exact ⟨outcome, scanned⟩
  · intro foldsCase outcome scanned
    have accounts := scan_accounts scanned
    have canonical := scan_canonical scanned
    have agree : ∀ first ∈ states, ∀ second ∈ states, first.id = second.id →
        first.accepting = second.accepting := by
      intro first firstMem second secondMem same
      have one := (held first firstMem).eq_of_id consistent (held second secondMem) same
      rw [one]
    constructor
    · exact scan_finalState_eq scanned
    · exact accepted_iff_of_agree agree
        (fun state member => (held state member).accepting consistent) scanned
    · intro truncated
      rw [← canonical] at truncated
      simp [ScanOutcome.status, truncated]
    · intro whole
      rw [← canonical] at whole
      exact accounts.status_noMatch_iff whole
    · intro whole
      rw [← canonical] at whole
      exact accounts.status_complete_iff whole
    · intro whole
      rw [← canonical] at whole
      exact accounts.status_part_iff whole

def refusedCalls : List Registry.Call :=
  [.register (.text "data_payload".toList) (some "ab".toList) (some fun _ => .ok false) none,
    .register (.text "schema_reference".toList) (some ['c']) none none,
    .addTransition 0 1 (.text ['x']) (.whole 1) none,
    .register (.text "audit_marker".toList) (some "ab".toList) none none]

def refusedStates : List State :=
  (({ ignoreCase := true } : Registry).run (refusedCalls.take 2)).states ++
    (({ ignoreCase := true } : Registry).run refusedCalls).states.reverse

theorem scan_coherent_refused :
    ∃ outcome, scan true { text := "xcab!".toList } refusedStates 7 = .ok outcome ∧
      outcome.finalState = 2 ∧ outcome.accepted = true ∧ outcome.status = .part := by
  have held : ∀ state ∈ refusedStates,
      Registry.Held { ignoreCase := true } refusedCalls state := by
    intro state member
    rcases List.mem_append.mp member with early | late
    · exact ⟨refusedCalls.take 2, List.take_prefix 2 refusedCalls, early⟩
    · exact ⟨refusedCalls, List.prefix_rfl, List.mem_reverse.mp late⟩
  have returns : ∀ state ∈ refusedStates, ∀ validator, state.validator = some validator →
      ∀ content, ∃ accepted, validator content = .ok accepted := by
    intro state member validator given content
    obtain ⟨earlier, opens, listed⟩ := held state member
    rcases Registry.run_validator earlier listed with ⟨old, none, _⟩ |
      ⟨patternType, rule, stamp, asked⟩
    · contradiction
    · have call := opens.subset asked
      rw [given] at call
      simp only [refusedCalls, List.mem_cons, Registry.Call.register.injEq, reduceCtorEq,
        Option.some.injEq, List.not_mem_nil, or_false, false_and, and_false] at call
      rw [call.2.2.1]
      exact ⟨false, rfl⟩
  obtain ⟨⟨outcome, scanned⟩, coherent⟩ := scan_coherent held returns { text := "xcab!".toList } 7
  have computed : (scan true { text := "xcab!".toList } refusedStates 7).toOption.map
      (fun outcome => (outcome.records, outcome.unmatched)) =
      some ([{ recordType := .schemaValidation, content := ['c'], source := 1 },
        { recordType := .auditRecord, content := ['a', 'b'], source := 2 }], 2) := by
    decide +kernel
  rw [scanned] at computed
  obtain ⟨records, unmatched⟩ := Prod.mk.inj (Option.some.inj computed)
  have agrees := coherent true outcome scanned
  refine ⟨outcome, scanned, ?_, ?_, ?_⟩
  · rw [agrees.finalState, records]
    rfl
  · rw [agrees.accepted, ScanOutcome.EndsAccepting, records]
    exact ⟨_, rfl, .inr rfl⟩
  · rw [agrees.part rfl, unmatched]
    decide

end Scan

end ProtocolGate
