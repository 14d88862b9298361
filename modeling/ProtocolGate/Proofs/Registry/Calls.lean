import Mathlib
import ProtocolGate.Proofs.Registry

/-!
A registry under calls. Whatever is registered and declared, and whatever is refused in between, ids
are places, the tables stay within their bounds, every rule can be matched, and the count of each
state is the number of its transitions.
-/

namespace ProtocolGate.Registry

inductive Call where
  | register (patternType : Datum) (rule : Option Text) (validator : Option Validator)
      (requiresZeroTrust : Option Bool)
  | addTransition (source target : Int) (symbol : Datum) (weight : Amount)
      (validator : Option Validator)

def perform (registry : Registry) : Call → Registry
  | .register patternType rule validator requiresZeroTrust =>
    match registry.register patternType rule validator requiresZeroTrust with
    | .ok (_, after) => after
    | .error _ => registry
  | .addTransition source target symbol weight validator =>
    match registry.addTransition source target symbol weight validator with
    | .ok (_, after) => after
    | .error _ => registry

def run (registry : Registry) (calls : List Call) : Registry :=
  calls.foldl perform registry

variable {registry after : Registry} {validator : Option Validator}

theorem isKnown_iff {id : Int} :
    registry.isKnown id = true ↔ 0 ≤ id ∧ id < registry.states.length := by
  simp only [isKnown, Bool.and_eq_true, decide_eq_true_eq]

theorem symbol?_some {symbol : Datum} {c : Char} (single : symbol? symbol = some c) :
    symbol = .text [c] := by
  unfold symbol? at single
  split at single
  · obtain rfl := Option.some.inj single
    rfl
  · contradiction

theorem isAccepting_iff (patternType : PatternType) :
    patternType.isAccepting = true ↔ patternType = .dataPayload ∨ patternType = .auditMarker := by
  cases patternType <;> decide

theorem countTransition_count (source : Int) (state : State) :
    (countTransition source state).transitionCount =
      state.transitionCount + if state.id = source then 1 else 0 := by
  unfold countTransition
  split
  · rfl
  · omega

theorem countP_id {states : List State} (first : Nat) (source : Int)
    (numbered : ∀ (index : Nat) (state : State),
      states[index]? = some state → state.id = first + index) :
    states.countP (fun state => state.id == source) =
      if first ≤ source ∧ source < first + states.length then 1 else 0 := by
  induction states generalizing first with
  | nil =>
      rw [List.countP_nil, if_neg]
      simp only [List.length_nil]
      omega
  | cons state others ih =>
      have head : state.id = first := by simpa using numbered 0 state rfl
      have tail := ih (first + 1) fun index other found => by
        rw [numbered (index + 1) other found]
        omega
      simp only [List.countP_cons, tail, List.length_cons, beq_iff_eq]
      by_cases here : state.id = source
      · have before : ¬ (((first + 1 : Nat) : Int) ≤ source ∧
            source < (first + 1 : Nat) + others.length) := by omega
        rw [if_neg before, if_pos here, if_pos (by omega)]
      · rw [if_neg here, Nat.add_zero]
        by_cases later : ((first + 1 : Nat) : Int) ≤ source ∧
            source < (first + 1 : Nat) + others.length
        · rw [if_pos later, if_pos (by omega)]
        · rw [if_neg later, if_neg (by omega)]

theorem sum_countTransition (source : Int) (states : List State) :
    ((states.map (countTransition source)).map State.transitionCount).sum =
      (states.map State.transitionCount).sum +
        states.countP (fun state => state.id == source) := by
  induction states with
  | nil => rfl
  | cons state others ih =>
      simp only [List.map_cons, List.sum_cons, List.countP_cons, countTransition_count, ih,
        beq_iff_eq]
      by_cases here : state.id = source
      · simp only [here, if_true]
        omega
      · simp only [here, if_false]
        omega

/-- What holds of every registry that started empty. A negative bound is no room at all. -/
structure Consistent (registry : Registry) : Prop where
  numbered : Numbered registry.states
  states_le : (registry.states.length : Int) ≤ max registry.limits.states 0
  transitions_le : (registry.transitions.length : Int) ≤ max registry.limits.transitions 0
  rules : ∀ state ∈ registry.states, state.rule ≠ [] ∧
    (state.rule.length : Int) ≤ registry.limits.ruleLength ∧
    ∃ compiled, Pattern.compile registry.ignoreCase state.rule = .ok compiled
  accepting : ∀ state ∈ registry.states, state.accepting = state.patternType.isAccepting
  endpoints : ∀ transition ∈ registry.transitions,
    registry.isKnown transition.source = true ∧ registry.isKnown transition.target = true
  counts : ∀ state ∈ registry.states,
    state.transitionCount = (registry.transitionsFrom state.id).length
  total : (registry.states.map State.transitionCount).sum = registry.transitions.length

theorem consistent_empty (ignoreCase zeroTrust : Bool) (limits : Limits) :
    Consistent { ignoreCase, zeroTrust, limits } := by
  refine ⟨?_, ?_, ?_, ?_, ?_, ?_, ?_, rfl⟩
  · intro index state found
    contradiction
  · simp only [List.length_nil]
    omega
  · simp only [List.length_nil]
    omega
  · intro state member
    contradiction
  · intro state member
    contradiction
  · intro transition member
    contradiction
  · intro state member
    contradiction

theorem Consistent.register {patternType : Datum} {rule : Option Text}
    {requiresZeroTrust : Option Bool} {state : State} (consistent : registry.Consistent)
    (registered : registry.register patternType rule validator requiresZeroTrust =
      .ok (state, after)) :
    after.Consistent := by
  obtain ⟨known, text, _, _, nonempty, room, short, compiles, rfl, rfl⟩ := register_ok registered
  have added {other : State} (member : other ∈ registry.states ++
      [registry.newState known text validator requiresZeroTrust]) :
      other ∈ registry.states ∨
        other = registry.newState known text validator requiresZeroTrust :=
    (List.mem_append.mp member).imp_right List.mem_singleton.mp
  refine ⟨consistent.numbered.concat rfl, ?_, consistent.transitions_le, ?_, ?_, ?_, ?_, ?_⟩
  · simp only [List.length_append, List.length_singleton]
    omega
  · intro other member
    rcases added member with old | rfl
    · exact consistent.rules other old
    · exact ⟨nonempty, short, compiles⟩
  · intro other member
    rcases added member with old | rfl
    · exact consistent.accepting other old
    · rfl
  · intro transition member
    have known := consistent.endpoints transition member
    simp only [isKnown_iff, List.length_append, List.length_singleton] at known ⊢
    omega
  · intro other member
    rcases added member with old | rfl
    · exact consistent.counts other old
    -- No transition leaves the new state, because the sources of all are places of older ones.
    · have none : registry.transitionsFrom registry.states.length = [] := by
        refine List.filter_eq_nil_iff.mpr fun transition member => ?_
        have known := isKnown_iff.mp (consistent.endpoints transition member).1
        simp only [beq_iff_eq]
        omega
      exact congrArg (fun found : List Transition => (found.length : Int)) none.symm
  · simp only [List.map_append, List.sum_append, consistent.total]
    simp [newState]

theorem Consistent.addTransition {source target : Int} {symbol : Datum} {weight : Amount}
    {transition : Transition} (consistent : registry.Consistent)
    (declared : registry.addTransition source target symbol weight validator =
      .ok (transition, after)) :
    after.Consistent := by
  obtain ⟨c, _, sourceKnown, targetKnown, _, room, shape, rfl⟩ := addTransition_ok declared
  have leaves : transition.source = source := by rw [shape]
  have reaches : transition.target = target := by rw [shape]
  have counted {state : State} (member : state ∈ registry.states.map (countTransition source)) :
      ∃ old ∈ registry.states, countTransition source old = state := List.mem_map.mp member
  have known {id : Int} (old : registry.isKnown id = true) :
      isKnown { registry with
        states := registry.states.map (countTransition source)
        transitions := registry.transitions ++ [transition] } id = true := by
    rw [isKnown_iff] at old ⊢
    rwa [List.length_map]
  refine ⟨consistent.numbered.counted source, ?_, ?_, ?_, ?_, ?_, ?_, ?_⟩
  · rw [List.length_map]
    exact consistent.states_le
  · simp only [List.length_append, List.length_singleton]
    omega
  · intro state member
    obtain ⟨old, listed, rfl⟩ := counted member
    obtain ⟨count, recounted⟩ := countTransition_eq source old
    rw [recounted]
    exact consistent.rules old listed
  · intro state member
    obtain ⟨old, listed, rfl⟩ := counted member
    obtain ⟨count, recounted⟩ := countTransition_eq source old
    rw [recounted]
    exact consistent.accepting old listed
  · intro other member
    rcases List.mem_append.mp member with old | new
    · have both := consistent.endpoints other old
      exact ⟨known both.1, known both.2⟩
    · obtain rfl := List.mem_singleton.mp new
      rw [leaves, reaches]
      exact ⟨known sourceKnown, known targetKnown⟩
  · intro state member
    obtain ⟨old, listed, rfl⟩ := counted member
    rw [countTransition_count, countTransition_id, consistent.counts old listed, transitionsFrom,
      transitionsFrom, List.filter_append, List.length_append]
    by_cases here : old.id = source
    · simp [leaves, here]
    · have other : source ≠ old.id := fun same => here same.symm
      simp [leaves, here, other]
  · have one := countP_id 0 source fun index state found => by
      rw [consistent.numbered index state found]
      omega
    have inside := isKnown_iff.mp sourceKnown
    rw [if_pos (by omega)] at one
    rw [sum_countTransition, one, consistent.total, List.length_append, List.length_singleton]
    rfl

theorem perform_consistent (consistent : registry.Consistent) (call : Call) :
    (registry.perform call).Consistent := by
  cases call with
  | register patternType rule validator requiresZeroTrust =>
      simp only [perform]
      split
      · rename_i registered
        exact consistent.register registered
      · exact consistent
  | addTransition source target symbol weight validator =>
      simp only [perform]
      split
      · rename_i declared
        exact consistent.addTransition declared
      · exact consistent

theorem run_consistent (consistent : registry.Consistent) (calls : List Call) :
    (registry.run calls).Consistent := by
  induction calls generalizing registry with
  | nil => exact consistent
  | cons call later ih => exact ih (perform_consistent consistent call)

theorem perform_states (call : Call) {index : Nat} {state : State}
    (found : registry.states[index]? = some state) :
    ∃ count, (registry.perform call).states[index]? =
      some { state with transitionCount := count } := by
  cases call with
  | register patternType rule validator requiresZeroTrust =>
      simp only [perform]
      split
      · rename_i registered
        obtain ⟨_, _, _, _, _, _, _, _, _, rfl⟩ := register_ok registered
        refine ⟨state.transitionCount, ?_⟩
        obtain ⟨bound, _⟩ := List.getElem?_eq_some_iff.mp found
        exact (List.getElem?_append_left bound).trans found
      · exact ⟨state.transitionCount, found⟩
  | addTransition source target symbol weight validator =>
      simp only [perform]
      split
      · rename_i declared
        obtain ⟨_, _, _, _, _, _, _, rfl⟩ := addTransition_ok declared
        obtain ⟨count, counted⟩ := countTransition_eq source state
        refine ⟨count, ?_⟩
        rw [List.getElem?_map, found, Option.map_some, counted]
      · exact ⟨state.transitionCount, found⟩

theorem run_states (calls : List Call) {index : Nat} {state : State}
    (found : registry.states[index]? = some state) :
    ∃ count, (registry.run calls).states[index]? =
      some { state with transitionCount := count } := by
  induction calls generalizing registry state with
  | nil => exact ⟨state.transitionCount, found⟩
  | cons call later ih =>
      obtain ⟨_, kept⟩ := perform_states call found
      obtain ⟨count, keptLater⟩ := ih kept
      exact ⟨count, keptLater⟩

def declaration (transition : Transition) : Call :=
  .addTransition transition.source transition.target (.text [transition.symbol])
    transition.weight transition.validator

theorem perform_transitions (call : Call) {transition : Transition}
    (member : transition ∈ (registry.perform call).transitions) :
    transition ∈ registry.transitions ∨ call = declaration transition := by
  cases call with
  | register patternType rule validator requiresZeroTrust =>
      simp only [perform] at member
      split at member
      · rename_i registered
        obtain ⟨_, _, _, _, _, _, _, _, _, rfl⟩ := register_ok registered
        exact .inl member
      · exact .inl member
  | addTransition source target symbol weight validator =>
      simp only [perform] at member
      split at member
      · rename_i declared
        obtain ⟨c, single, _, _, _, _, shape, rfl⟩ := addTransition_ok declared
        rcases List.mem_append.mp member with old | new
        · exact .inl old
        · obtain rfl := List.mem_singleton.mp new
          rw [shape, symbol?_some single]
          exact .inr rfl
      · exact .inl member

theorem run_transitions (calls : List Call) {transition : Transition}
    (member : transition ∈ (registry.run calls).transitions) :
    transition ∈ registry.transitions ∨ declaration transition ∈ calls := by
  induction calls generalizing registry with
  | nil => exact .inl member
  | cons call later ih =>
      rcases ih member with before | asked
      · rcases perform_transitions call before with old | rfl
        · exact .inl old
        · exact .inr List.mem_cons_self
      · exact .inr (List.mem_cons_of_mem call asked)

theorem perform_settings (registry : Registry) (call : Call) :
    (registry.perform call).ignoreCase = registry.ignoreCase ∧
      (registry.perform call).limits = registry.limits := by
  cases call with
  | register patternType rule validator requiresZeroTrust =>
      simp only [perform]
      split
      · rename_i registered
        obtain ⟨_, _, _, _, _, _, _, _, _, rfl⟩ := register_ok registered
        exact ⟨rfl, rfl⟩
      · exact ⟨rfl, rfl⟩
  | addTransition source target symbol weight validator =>
      simp only [perform]
      split
      · rename_i declared
        obtain ⟨_, _, _, _, _, _, _, rfl⟩ := addTransition_ok declared
        exact ⟨rfl, rfl⟩
      · exact ⟨rfl, rfl⟩

theorem run_settings (registry : Registry) (calls : List Call) :
    (registry.run calls).ignoreCase = registry.ignoreCase ∧
      (registry.run calls).limits = registry.limits := by
  induction calls generalizing registry with
  | nil => exact ⟨rfl, rfl⟩
  | cons call later ih =>
      have first := registry.perform_settings call
      have rest := ih (registry.perform call)
      exact ⟨rest.1.trans first.1, rest.2.trans first.2⟩

/-- Any calls on a new registry, succeeding or failing: the state at a place has that place as its
id, a rule that is not empty, is short enough and compiles, the mark of an accepting type exactly if
it has one, and a count that is the number of its transitions. Transitions join registered states,
by symbols of one character; the counts add up to their number. The tables are within their bounds,
where a negative bound leaves no room. No further calls change anything but the count of a state. -/
theorem run_invariant (ignoreCase zeroTrust : Bool) (limits : Limits) (calls : List Call) :
    let registry := ({ ignoreCase, zeroTrust, limits } : Registry).run calls
    (∀ (index : Nat) (state : State), registry.states[index]? = some state →
      state.id = index ∧ state.rule ≠ [] ∧ (state.rule.length : Int) ≤ limits.ruleLength ∧
      (∃ compiled, Pattern.compile ignoreCase state.rule = .ok compiled) ∧
      (state.accepting = true ↔
        state.patternType = .dataPayload ∨ state.patternType = .auditMarker) ∧
      state.transitionCount = (registry.transitionsFrom index).length) ∧
    (registry.states.length : Int) ≤ max limits.states 0 ∧
    (registry.transitions.length : Int) ≤ max limits.transitions 0 ∧
    (∀ transition ∈ registry.transitions, declaration transition ∈ calls ∧
      (∃ state ∈ registry.states, state.id = transition.source) ∧
      ∃ state ∈ registry.states, state.id = transition.target) ∧
    (registry.states.map State.transitionCount).sum = registry.transitions.length ∧
    ∀ (later : List Call) (index : Nat) (state : State), registry.states[index]? = some state →
      ∃ count, (registry.run later).states[index]? =
        some { state with transitionCount := count } := by
  intro registry
  have consistent : registry.Consistent :=
    run_consistent (consistent_empty ignoreCase zeroTrust limits) calls
  have settings := run_settings { ignoreCase, zeroTrust, limits } calls
  have sameCase : registry.ignoreCase = ignoreCase := settings.1
  have sameLimits : registry.limits = limits := settings.2
  refine ⟨?_, ?_, ?_, ?_, consistent.total, fun later index state found => run_states later found⟩
  · intro index state found
    have member := List.mem_of_getElem? found
    have here := consistent.numbered index state found
    obtain ⟨nonempty, short, compiles⟩ := consistent.rules state member
    have accepts := consistent.accepting state member
    have count := consistent.counts state member
    rw [sameLimits] at short
    rw [sameCase] at compiles
    rw [here] at count
    refine ⟨here, nonempty, short, compiles, ?_, count⟩
    rw [accepts]
    exact isAccepting_iff state.patternType
  · rw [← sameLimits]
    exact consistent.states_le
  · rw [← sameLimits]
    exact consistent.transitions_le
  · intro transition member
    have known := consistent.endpoints transition member
    refine ⟨?_, consistent.numbered.exists_id (isKnown_iff.mp known.1),
      consistent.numbered.exists_id (isKnown_iff.mp known.2)⟩
    rcases run_transitions calls member with old | asked
    · contradiction
    · exact asked

def loopCalls : List Call :=
  [.register (.text "data_payload".toList) (some ['a']) none none,
    .register (.text "data_payload".toList) (some ['(']) none none,
    .addTransition 0 1 (.text ['x']) (.whole 0) none,
    .register (.text "schema_reference".toList) (some ['b']) none (some false),
    .addTransition 0 0 (.text ['x']) (.whole 1) none,
    .addTransition 0 1 (.text ['y']) (.float 0.5) none,
    .addTransition 1 0 (.text ['z']) (.whole 0) none]

theorem run_invariant_loop :
    let registry : Registry :=
      ({ ignoreCase := true, limits := { transitions := 2 } } : Registry).run loopCalls
    registry.states.map State.id = [0, 1] ∧ registry.states.map State.transitionCount = [2, 0] ∧
    (registry.states.map State.transitionCount).sum = registry.transitions.length ∧
    ∀ transition ∈ registry.transitions, declaration transition ∈ loopCalls := by
  intro registry
  have computed : registry.states.map State.id = [0, 1] ∧
      registry.states.map State.transitionCount = [2, 0] := by decide +kernel
  obtain ⟨_, _, _, declared, total, _⟩ := run_invariant true true { transitions := 2 } loopCalls
  exact ⟨computed.1, computed.2, total, fun transition member => (declared transition member).1⟩

theorem run_exceeds_negative_bound :
    ¬ ((({ ignoreCase := true, limits := { states := -1 } } : Registry).run
      [.register (.text "data_payload".toList) (some ['a']) none none]).states.length : Int) ≤
        -1 := by
  decide +kernel

end ProtocolGate.Registry
