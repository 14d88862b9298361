import ProtocolGate.Governance
import ProtocolGate.Proofs.Decimal.Rounding
import ProtocolGate.Proofs.Registry.Calls
import ProtocolGate.Proofs.Scan.Segmentation
import ProtocolGate.Proofs.Scan.States

/-!
What a scan reports. It is accepted exactly if its last record is of one of the two types that
complete a message, although the flag is looked up by the id of a state and the type comes from the
pattern. The cost of a text that any memory holds is finite and can be charged, and with rules that
compile a scan fails only where a validator raises.
-/

namespace ProtocolGate

open Decimal

theorem PatternType.isAccepting_iff_recordType (patternType : PatternType) :
    patternType.isAccepting = true ↔
      patternType.recordType = .payloadBlock ∨ patternType.recordType = .auditRecord := by
  cases patternType <;> decide

namespace Record

theorem cost_atMost {record : Record} (short : record.length ≤ 2 ^ 900) :
    AtMost 900 record.cost := by
  have tenth : AtMost (-3) costPerCharacter := by
    change Within (-3) costPerCharacter.toModel.unpack
    decide +kernel
  have product := tenth.mul (by decide) (by decide) (AtMost.ofInt (by decide) short)
  exact product.mono (by decide)

theorem foldl_cost_atMost {records : List Record} {total : Float} (atMost : AtMost 954 total)
    (short : (records.flatMap Record.content).length ≤ 2 ^ 900) :
    AtMost 954 (records.foldl (fun total record => total + record.cost) total) := by
  induction records generalizing total with
  | nil => exact atMost
  | cons record others ih =>
      rw [List.flatMap_cons, List.length_append] at short
      have one : record.length ≤ 2 ^ 900 := Nat.le_trans (Nat.le_add_right _ _) short
      refine ih (atMost.add (by decide) (by decide) (cost_atMost one)) ?_
      exact Nat.le_trans (Nat.le_add_left _ _) short

end Record

theorem Governance.charge_atMost {limit : Int} {amount : Float} (atMost : AtMost limit amount)
    (total : Float) : charge total (.float amount) = .ok (total + amount) := by
  have positive : Amount.isNegative (.float amount) = false := decide_eq_false atMost.not_negative
  simp only [charge, positive, Amount.toFloat?, atMost.isFinite, Bool.false_eq_true, if_false,
    if_true]

def ScanOutcome.EndsAccepting (outcome : ScanOutcome) : Prop :=
  ∃ record, outcome.records.getLast? = some record ∧
    (record.recordType = .payloadBlock ∨ record.recordType = .auditRecord)

theorem Governance.cost_atMost {accumulated : Float} (atMost : AtMost 908 accumulated)
    {states transitions : Nat} (fewStates : states ≤ 2 ^ 800)
    (fewTransitions : transitions ≤ 2 ^ 800) (zeroTrust : Bool) :
    AtMost 908 (cost accumulated states transitions zeroTrust) := by
  have stateRate : AtMost 0 stateCost := by
    change Within 0 stateCost.toModel.unpack
    decide +kernel
  have transitionRate : AtMost 0 transitionCost := by
    change Within 0 transitionCost.toModel.unpack
    decide +kernel
  have surcharge : AtMost 0 zeroTrustCost := by
    change Within 0 zeroTrustCost.toModel.unpack
    decide +kernel
  -- Each amount is at most `2 ^ 854`, too small to take a sum past `2 ^ 908`.
  have forStates : AtMost 854 (stateCost * ofInt states) :=
    (stateRate.mul (by decide) (by decide) (AtMost.ofInt (by decide) fewStates)).mono (by decide)
  have forTransitions : AtMost 854 (transitionCost * ofInt transitions) :=
    (transitionRate.mul (by decide) (by decide) (AtMost.ofInt (by decide) fewTransitions)).mono
      (by decide)
  have withStates := atMost.add (by decide) (by decide) forStates
  have structural := withStates.add (by decide) (by decide) forTransitions
  unfold cost
  cases zeroTrust with
  | false => exact structural
  | true => exact structural.add (by decide) (by decide) (surcharge.mono (by decide))

namespace Scan

variable {ignoreCase : Bool} {states : List State} {form : Canonical.Form} {initialState : Int}
  {outcome : ScanOutcome}

theorem records_eq (segments : List Segment) :
    segments.filterMap Segment.record? =
      (segments.filterMap Segment.match?).map fun (state, content) =>
        Record.ofMatch state.id state.patternType content := by
  rw [List.map_filterMap]
  congr 1
  funext segment
  cases segment <;> rfl

theorem matchedStates_eq (segments : List Segment) :
    (segments.filterMap fun segment => segment.state?.map State.id) =
      (segments.filterMap Segment.match?).map fun (state, _) => state.id := by
  rw [List.map_filterMap]
  congr 1
  funext segment
  cases segment <;> rfl

/-- The state that a scan ends in is looked up by its id. What is found may be another state, but one
with the same flag, and the flag is that of its type. -/
theorem accepted_iff_of_agree
    (agree : ∀ first ∈ states, ∀ second ∈ states, first.id = second.id →
      first.accepting = second.accepting)
    (accepting : ∀ state ∈ states, state.accepting = state.patternType.isAccepting)
    (scanned : scan ignoreCase form states initialState = .ok outcome) :
    outcome.accepted = true ↔ outcome.EndsAccepting := by
  obtain ⟨segments, cut, rfl⟩ := exists_of_map_ok scanned
  simp only [ScanOutcome.EndsAccepting, ScanOutcome.ofSegments, records_eq, matchedStates_eq,
    List.getLast?_map]
  cases last : (segments.filterMap Segment.match?).getLast? with
  | none =>
      rw [List.getLast?_eq_none_iff] at last
      simp [last]
  | some found =>
      obtain ⟨state, content⟩ := found
      have nonempty : segments.filterMap Segment.match? ≠ [] := fun none => by
        rw [none] at last
        contradiction
      have listed : state ∈ states := by
        have member := List.mem_of_getLast? last
        obtain ⟨segment, inside, matched⟩ := List.mem_filterMap.mp member
        have taken : segment.state? = some state := by
          cases segment with
          | skipped c => contradiction
          | matched other text => exact congrArg (Option.map Prod.fst) matched
        exact segmentsFrom_listed cut inside taken
      have again : (states.find? fun other => other.id == state.id).any State.accepting =
          state.patternType.isAccepting := by
        rw [← accepting state listed]
        cases found : states.find? (fun other => other.id == state.id) with
        | none => exact absurd (List.find?_eq_none.mp found state listed) (by simp)
        | some other =>
            have same : other.id = state.id := by simpa using List.find?_some found
            exact agree other (List.mem_of_find?_eq_some found) state listed same
      simp only [Option.map_some, Option.getD_some, again, List.isEmpty_map]
      simp [nonempty, PatternType.isAccepting_iff_recordType, Record.ofMatch]

theorem accepted_iff (numbered : Registry.Numbered states)
    (accepting : ∀ state ∈ states, state.accepting = state.patternType.isAccepting)
    (scanned : scan ignoreCase form states initialState = .ok outcome) :
    outcome.accepted = true ↔ outcome.EndsAccepting := by
  apply accepted_iff_of_agree ?_ accepting scanned
  intro first firstMem second secondMem same
  rw [numbered.eq_of_id firstMem secondMem same]

theorem scan_canonical (scanned : scan ignoreCase form states initialState = .ok outcome) :
    outcome.canonical = form := by
  obtain ⟨segments, _, rfl⟩ := exists_of_map_ok scanned
  rfl

def Raises (states : List State) (message : Text) : Prop :=
  ∃ state ∈ states, ∃ validator content,
    state.validator = some validator ∧ validator content = .error message

theorem verdict_error {state : State} {content : Text} {failure : Failure}
    (failed : verdict state content = .error failure) :
    ∃ message, failure = .raised message ∧
      ∃ validator, state.validator = some validator ∧ validator content = .error message := by
  unfold verdict at failed
  split at failed
  · contradiction
  · rename_i validator given
    split at failed
    · contradiction
    · rename_i message raised
      exact ⟨message, (Except.error.inj failed).symm, validator, given, raised⟩

theorem firstMatch_error {text : Text} {failure : Failure}
    (compiles : ∀ state ∈ states, ∃ compiled, Pattern.compile ignoreCase state.rule = .ok compiled)
    (failed : firstMatch (candidates ignoreCase states) text = .error failure) :
    ∃ message, failure = .raised message ∧ Raises states message := by
  induction states with
  | nil => contradiction
  | cons first others ih =>
      have later (failed : firstMatch (candidates ignoreCase others) text = .error failure) :
          ∃ message, failure = .raised message ∧ Raises (first :: others) message := by
        obtain ⟨message, same, state, member, raised⟩ :=
          ih (fun state member => compiles state (List.mem_cons_of_mem first member)) failed
        exact ⟨message, same, state, List.mem_cons_of_mem first member, raised⟩
      obtain ⟨compiled, compiled_eq⟩ := compiles first List.mem_cons_self
      simp only [candidates, List.map_cons, firstMatch, compiled_eq] at failed
      split at failed
      · exact later failed
      · exact later failed
      · split at failed
        · rename_i judged
          obtain rfl := Except.error.inj failed
          obtain ⟨message, same, validator, given, raised⟩ := verdict_error judged
          exact ⟨message, same, first, List.mem_cons_self, validator, _, given, raised⟩
        · contradiction
        · exact later failed

theorem segmentsFrom_error {rounds : Nat} {text : Text} {failure : Failure}
    (compiles : ∀ state ∈ states, ∃ compiled, Pattern.compile ignoreCase state.rule = .ok compiled)
    (failed : segmentsFrom (candidates ignoreCase states) rounds text = .error failure) :
    ∃ message, failure = .raised message ∧ Raises states message := by
  induction rounds generalizing text with
  | zero => contradiction
  | succ rounds ih =>
      cases text with
      | nil => contradiction
      | cons c rest =>
          simp only [segmentsFrom] at failed
          split at failed
          · rename_i searched
            obtain rfl := Except.error.inj failed
            exact firstMatch_error compiles searched
          · exact ih (error_of_map_error failed)
          · exact ih (error_of_map_error failed)

theorem segmentsFrom_length_le {tried : List Candidate} {rounds : Nat} {text : Text}
    {segments : List Segment} (cut : segmentsFrom tried rounds text = .ok segments) :
    (segments.flatMap Segment.content).length ≤ text.length := by
  induction rounds generalizing text segments with
  | zero =>
      obtain rfl := Except.ok.inj cut
      exact Nat.zero_le _
  | succ rounds ih =>
      cases text with
      | nil =>
          obtain rfl := Except.ok.inj cut
          exact Nat.le_refl _
      | cons c rest =>
          simp only [segmentsFrom] at cut
          split at cut
          · contradiction
          · obtain ⟨later, tail, rfl⟩ := exists_of_map_ok cut
            have bound := ih tail
            simp only [List.flatMap_cons, Segment.content, List.length_append, List.length_cons,
              List.length_nil]
            omega
          · rename_i state length _
            obtain ⟨later, tail, rfl⟩ := exists_of_map_ok cut
            have bound := ih tail
            have whole := congrArg List.length (List.take_append_drop length (c :: rest))
            rw [List.length_append] at whole
            rw [List.flatMap_cons, List.length_append, Segment.content]
            omega

/-- A scan with rules that compile returns an outcome whose cost can be charged, unless a validator
raises. -/
theorem scan_cases
    (compiles : ∀ state ∈ states, ∃ compiled, Pattern.compile ignoreCase state.rule = .ok compiled)
    (short : form.text.length ≤ 2 ^ 900) (initialState : Int) :
    (∃ outcome, scan ignoreCase form states initialState = .ok outcome ∧
      AtMost 954 outcome.cost) ∨
    ∃ message, scan ignoreCase form states initialState = .error (.raised message) ∧
      Raises states message := by
  unfold scan Scan.segments
  cases cut : segmentsFrom (candidates ignoreCase states) form.text.length form.text with
  | error failure =>
      obtain ⟨message, rfl, raised⟩ := segmentsFrom_error compiles cut
      exact .inr ⟨message, rfl, raised⟩
  | ok segments =>
      refine .inl ⟨.ofSegments form states initialState segments, rfl, ?_⟩
      refine Record.foldl_cost_atMost .zero ?_
      have covered := length_flatMap_content segments
      have within := segmentsFrom_length_le cut
      change ((segments.filterMap Segment.record?).flatMap Record.content).length ≤ 2 ^ 900
      omega

end Scan

end ProtocolGate
