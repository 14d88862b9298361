import ProtocolGate.Proofs.Registry
import ProtocolGate.Scan

/-!
The states in a scan. A scan reports the ids of states it was given, and it reads of a state neither
the stamp of zero trust nor the count of transitions.
-/

namespace ProtocolGate

def State.unmarked (state : State) : State :=
  { state with requiresZeroTrust := false, transitionCount := 0 }

theorem Registry.unmarked_countTransition (source : Int) (state : State) :
    (countTransition source state).unmarked = state.unmarked := by
  obtain ⟨count, counted⟩ := countTransition_eq source state
  rw [counted]
  rfl

def Segment.unmarked : Segment → Segment
  | skipped c => skipped c
  | matched state content => matched state.unmarked content

theorem exists_of_map_ok {f : α → β} {result : Except ε α} {value : β}
    (mapped : result.map f = .ok value) : ∃ given, result = .ok given ∧ f given = value := by
  cases result with
  | error failure => contradiction
  | ok given => exact ⟨given, rfl, Except.ok.inj mapped⟩

theorem error_of_map_error {f : α → β} {result : Except ε α} {failure : ε}
    (failed : result.map f = .error failure) : result = .error failure := by
  cases result with
  | error found => rw [Except.error.inj failed]
  | ok given => contradiction

namespace Scan

theorem firstMatch_mem {tried : List Candidate} {text : Text} {state : State} {length : Nat}
    (found : firstMatch tried text = .ok (some (state, length))) :
    ∃ candidate ∈ tried, candidate.state = state := by
  induction tried with
  | nil => simp [firstMatch] at found
  | cons candidate others ih =>
      have later (found : firstMatch others text = .ok (some (state, length))) :
          ∃ other ∈ candidate :: others, other.state = state := by
        obtain ⟨other, member, same⟩ := ih found
        exact ⟨other, by simp [member], same⟩
      unfold firstMatch at found
      split at found
      · contradiction
      · split at found
        · exact later found
        · exact later found
        · split at found
          · contradiction
          · obtain ⟨rfl, _⟩ := Prod.mk.inj (Option.some.inj (Except.ok.inj found))
            exact ⟨candidate, by simp, rfl⟩
          · exact later found

theorem segmentsFrom_mem {tried : List Candidate} {rounds : Nat} {text : Text}
    {segments : List Segment} (scanned : segmentsFrom tried rounds text = .ok segments)
    {segment : Segment} {state : State} (member : segment ∈ segments)
    (matched : segment.state? = some state) : ∃ candidate ∈ tried, candidate.state = state := by
  induction rounds generalizing text segments with
  | zero =>
      obtain rfl := Except.ok.inj scanned
      contradiction
  | succ rounds ih =>
      cases text with
      | nil =>
          obtain rfl := Except.ok.inj scanned
          contradiction
      | cons c rest =>
          simp only [segmentsFrom] at scanned
          split at scanned
          · contradiction
          · obtain ⟨later, tail, rfl⟩ := exists_of_map_ok scanned
            rcases List.mem_cons.mp member with rfl | member
            · contradiction
            · exact ih tail member
          · rename_i found
            obtain ⟨later, tail, rfl⟩ := exists_of_map_ok scanned
            rcases List.mem_cons.mp member with rfl | member
            · obtain rfl := Option.some.inj matched
              exact firstMatch_mem found
            · exact ih tail member

theorem segmentsFrom_listed {ignoreCase : Bool} {states : List State} {rounds : Nat} {text : Text}
    {segments : List Segment}
    (scanned : segmentsFrom (candidates ignoreCase states) rounds text = .ok segments)
    {segment : Segment} {state : State} (member : segment ∈ segments)
    (matched : segment.state? = some state) : state ∈ states := by
  obtain ⟨candidate, tried, rfl⟩ := segmentsFrom_mem scanned member matched
  obtain ⟨given, listed, rfl⟩ := List.mem_map.mp tried
  exact listed

theorem segmentsFrom_congr {tried others : List Candidate}
    (same : ∀ text, firstMatch tried text = firstMatch others text) (rounds : Nat) (text : Text) :
    segmentsFrom tried rounds text = segmentsFrom others rounds text := by
  induction rounds generalizing text with
  | zero => rfl
  | succ rounds ih =>
      cases text with
      | nil => rfl
      | cons c rest => simp only [segmentsFrom, same, ih]

theorem firstMatch_unmarked (ignoreCase : Bool) (states : List State) (text : Text) :
    firstMatch (candidates ignoreCase (states.map State.unmarked)) text =
      (firstMatch (candidates ignoreCase states) text).map
        (Option.map fun (state, length) => (state.unmarked, length)) := by
  induction states with
  | nil => rfl
  | cons state others ih =>
      simp only [candidates] at ih
      simp only [candidates, List.map_cons, firstMatch]
      have rule : state.unmarked.rule = state.rule := rfl
      have judges (content : Text) : verdict state.unmarked content = verdict state content := rfl
      rw [rule]
      split
      · rfl
      · split
        · exact ih
        · exact ih
        · rw [judges]
          split
          · rfl
          · rfl
          · exact ih

theorem segmentsFrom_unmarked (ignoreCase : Bool) (states : List State) (rounds : Nat)
    (text : Text) :
    segmentsFrom (candidates ignoreCase (states.map State.unmarked)) rounds text =
      (segmentsFrom (candidates ignoreCase states) rounds text).map
        (List.map Segment.unmarked) := by
  induction rounds generalizing text with
  | zero => rfl
  | succ rounds ih =>
      cases text with
      | nil => rfl
      | cons c rest =>
          simp only [segmentsFrom, firstMatch_unmarked]
          cases firstMatch (candidates ignoreCase states) (c :: rest) with
          | error failure => rfl
          | ok found =>
              cases found with
              | none =>
                  simp only [Except.map, Option.map, ih]
                  cases segmentsFrom (candidates ignoreCase states) rounds rest <;> rfl
              | some taken =>
                  obtain ⟨state, length⟩ := taken
                  simp only [Except.map, Option.map, ih]
                  cases segmentsFrom (candidates ignoreCase states) rounds
                    ((c :: rest).drop length) <;> rfl

end Scan

namespace ScanOutcome

theorem ofSegments_unmarked (canonical : Canonical.Form) (states : List State)
    (initialState : Int) (segments : List Segment) :
    ofSegments canonical (states.map State.unmarked) initialState (segments.map Segment.unmarked) =
      ofSegments canonical states initialState segments := by
  have records : Segment.record? ∘ Segment.unmarked = Segment.record? := by
    funext segment
    cases segment <;> rfl
  have ids : (fun segment : Segment => segment.state?.map State.id) ∘ Segment.unmarked =
      fun segment => segment.state?.map State.id := by
    funext segment
    cases segment <;> rfl
  have skips : Segment.isSkipped ∘ Segment.unmarked = Segment.isSkipped := by
    funext segment
    cases segment <;> rfl
  have finals (id : Int) : ((states.map State.unmarked).find? fun state => state.id == id).any
      State.accepting = (states.find? fun state => state.id == id).any State.accepting := by
    rw [List.find?_map, Option.any_map]
    rfl
  simp only [ofSegments, List.filterMap_map, List.countP_map, records, ids, skips, finals]

theorem ofSegments_congr (canonical : Canonical.Form) {states others : List State}
    (initialState : Int) {segments : List Segment}
    (same : ∀ segment ∈ segments, ∀ state, segment.state? = some state →
      (states.find? fun other => other.id == state.id) =
        others.find? fun other => other.id == state.id) :
    ofSegments canonical states initialState segments =
      ofSegments canonical others initialState segments := by
  simp only [ofSegments]
  cases last : (segments.filterMap fun segment => segment.state?.map State.id).getLast? with
  | none =>
      rw [List.getLast?_eq_none_iff] at last
      rw [last]
      rfl
  | some id =>
      have member := List.mem_of_getLast? last
      obtain ⟨segment, inside, taken⟩ := List.mem_filterMap.mp member
      obtain ⟨state, matched, rfl⟩ := Option.map_eq_some_iff.mp taken
      rw [Option.getD_some, same segment inside state matched]

end ScanOutcome

theorem scan_unmarked (ignoreCase : Bool) (canonical : Canonical.Form) (states : List State)
    (initialState : Int) :
    scan ignoreCase canonical (states.map State.unmarked) initialState =
      scan ignoreCase canonical states initialState := by
  simp only [scan, Scan.segments, Scan.segmentsFrom_unmarked]
  cases Scan.segmentsFrom (Scan.candidates ignoreCase states) canonical.text.length
      canonical.text with
  | error failure => rfl
  | ok segments =>
      simp only [Except.map, ScanOutcome.ofSegments_unmarked]

/-- Two lists of states scan alike if everywhere they find the same match first and if they hold the
same state under every id that a match can report. -/
theorem scan_congr {ignoreCase : Bool} {states others : List State}
    (first : ∀ text, Scan.firstMatch (Scan.candidates ignoreCase states) text =
      Scan.firstMatch (Scan.candidates ignoreCase others) text)
    (final : ∀ state ∈ others, (states.find? fun other => other.id == state.id) =
      others.find? fun other => other.id == state.id)
    (canonical : Canonical.Form) (initialState : Int) :
    scan ignoreCase canonical states initialState =
      scan ignoreCase canonical others initialState := by
  simp only [scan, Scan.segments, Scan.segmentsFrom_congr first]
  cases cut : Scan.segmentsFrom (Scan.candidates ignoreCase others) canonical.text.length
      canonical.text with
  | error failure => rfl
  | ok segments =>
      simp only [Except.map]
      rw [ScanOutcome.ofSegments_congr]
      intro segment inside state matched
      exact final state (Scan.segmentsFrom_listed cut inside matched)

theorem scan_matchedStates_mem {ignoreCase : Bool} {canonical : Canonical.Form}
    {states : List State} {initialState id : Int} {outcome : ScanOutcome}
    (scanned : scan ignoreCase canonical states initialState = .ok outcome)
    (matched : id ∈ outcome.matchedStates) : ∃ state ∈ states, state.id = id := by
  obtain ⟨segments, cut, rfl⟩ := exists_of_map_ok scanned
  obtain ⟨segment, inside, taken⟩ := List.mem_filterMap.mp matched
  obtain ⟨state, found, same⟩ := Option.map_eq_some_iff.mp taken
  exact ⟨state, Scan.segmentsFrom_listed cut inside found, same⟩

theorem scan_finalState {ignoreCase : Bool} {canonical : Canonical.Form} {states : List State}
    {initialState : Int} {outcome : ScanOutcome}
    (scanned : scan ignoreCase canonical states initialState = .ok outcome) :
    outcome.finalState = initialState ∨ ∃ state ∈ states, state.id = outcome.finalState := by
  have matched : ∀ id ∈ outcome.matchedStates, ∃ state ∈ states, state.id = id :=
    fun _ member => scan_matchedStates_mem scanned member
  obtain ⟨segments, _, rfl⟩ := exists_of_map_ok scanned
  simp only [ScanOutcome.ofSegments] at matched ⊢
  cases last : (segments.filterMap fun segment => segment.state?.map State.id).getLast? with
  | none => exact .inl rfl
  | some id => exact .inr (matched id (List.mem_of_getLast? last))

end ProtocolGate
