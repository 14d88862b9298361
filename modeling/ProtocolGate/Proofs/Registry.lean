import ProtocolGate.Registry

/-!
What a registry has checked when it takes a state or a transition, and what it is afterwards. Both
operations keep the switches and the bounds of the registry, and every state keeps all but its count
of transitions.
-/

namespace ProtocolGate

def Registry.newState (registry : Registry) (patternType : PatternType) (rule : Text)
    (validator : Option Validator) (requiresZeroTrust : Option Bool) : State where
  id := registry.states.length
  patternType := patternType
  rule := rule
  accepting := patternType.isAccepting
  requiresZeroTrust := requiresZeroTrust.getD registry.zeroTrust
  validator := validator

namespace Registry

variable {registry after : Registry} {validator : Option Validator}

theorem register_ok {patternType : Datum} {rule : Option Text} {requiresZeroTrust : Option Bool}
    {state : State}
    (registered : registry.register patternType rule validator requiresZeroTrust =
      .ok (state, after)) :
    ∃ known text, PatternType.ofDatum? patternType = some known ∧ rule = some text ∧ text ≠ [] ∧
      (registry.states.length : Int) < registry.limits.states ∧
      (text.length : Int) ≤ registry.limits.ruleLength ∧
      (∃ compiled, Pattern.compile registry.ignoreCase text = .ok compiled) ∧
      state = registry.newState known text validator requiresZeroTrust ∧
      after = { registry with states := registry.states ++ [state] } := by
  unfold register at registered
  dsimp only at registered
  split at registered
  · contradiction
  rename_i given
  split at registered
  · contradiction
  rename_i room
  split at registered
  · contradiction
  rename_i short
  split at registered
  · contradiction
  rename_i known named
  split at registered
  · contradiction
  rename_i compiled compiles
  obtain ⟨rfl, rfl⟩ := Prod.mk.inj (Except.ok.inj registered)
  cases rule with
  | none => exact absurd rfl given
  | some text =>
      have nonempty : text ≠ [] := by simpa using given
      exact ⟨known, text, named, rfl, nonempty, by omega, Int.not_lt.mp short,
        ⟨compiled, compiles⟩, rfl, rfl⟩

theorem addTransition_ok {source target : Int} {symbol : Datum} {weight : Amount}
    {transition : Transition}
    (declared : registry.addTransition source target symbol weight validator =
      .ok (transition, after)) :
    ∃ c, symbol? symbol = some c ∧ registry.isKnown source = true ∧
      registry.isKnown target = true ∧ weight.isNegative = false ∧
      (registry.transitions.length : Int) < registry.limits.transitions ∧
      transition = { source, target, symbol := c, weight, validator } ∧
      after =
        { registry with
          states := registry.states.map (countTransition source)
          transitions := registry.transitions ++ [transition] } := by
  unfold addTransition at declared
  split at declared
  · contradiction
  rename_i sourceKnown
  split at declared
  · contradiction
  rename_i targetKnown
  split at declared
  · contradiction
  rename_i c single
  split at declared
  · contradiction
  rename_i positive
  split at declared
  · contradiction
  rename_i room
  obtain ⟨rfl, rfl⟩ := Prod.mk.inj (Except.ok.inj declared)
  exact ⟨c, single, by simpa using sourceKnown, by simpa using targetKnown, by simpa using positive,
    by omega, rfl, rfl⟩

theorem countTransition_eq (source : Int) (state : State) :
    ∃ count, countTransition source state = { state with transitionCount := count } := by
  unfold countTransition
  split
  · exact ⟨_, rfl⟩
  · exact ⟨state.transitionCount, rfl⟩

@[simp] theorem countTransition_id (source : Int) (state : State) :
    (countTransition source state).id = state.id := by
  obtain ⟨count, counted⟩ := countTransition_eq source state
  rw [counted]

@[simp] theorem countTransition_requiresZeroTrust (source : Int) (state : State) :
    (countTransition source state).requiresZeroTrust = state.requiresZeroTrust := by
  obtain ⟨count, counted⟩ := countTransition_eq source state
  rw [counted]

def Numbered (states : List State) : Prop :=
  ∀ (index : Nat) (state : State), states[index]? = some state → state.id = index

namespace Numbered

variable {states : List State}

theorem concat {state : State} (numbered : Numbered states) (next : state.id = states.length) :
    Numbered (states ++ [state]) := by
  intro index other found
  by_cases inside : index < states.length
  · rw [List.getElem?_append_left inside] at found
    exact numbered index other found
  · rw [List.getElem?_append_right (Nat.not_lt.mp inside), List.getElem?_singleton] at found
    split at found
    · obtain rfl := Option.some.inj found
      omega
    · contradiction

theorem counted (numbered : Numbered states) (source : Int) :
    Numbered (states.map (countTransition source)) := by
  intro index state found
  rw [List.getElem?_map] at found
  obtain ⟨old, listed, rfl⟩ := Option.map_eq_some_iff.mp found
  rw [countTransition_id]
  exact numbered index old listed

theorem eq_of_id {first second : State} (numbered : Numbered states) (firstMem : first ∈ states)
    (secondMem : second ∈ states) (same : first.id = second.id) : first = second := by
  obtain ⟨index, firstFound⟩ := List.mem_iff_getElem?.mp firstMem
  obtain ⟨other, secondFound⟩ := List.mem_iff_getElem?.mp secondMem
  have firstId := numbered index first firstFound
  have secondId := numbered other second secondFound
  obtain rfl : index = other := by omega
  rw [firstFound] at secondFound
  exact Option.some.inj secondFound

theorem nodup (numbered : Numbered states) : (states.map State.id).Nodup := by
  rw [List.nodup_iff_pairwise_ne, List.pairwise_map, List.pairwise_iff_getElem]
  intro left right leftBound rightBound less same
  rw [numbered left _ (List.getElem?_eq_getElem leftBound),
    numbered right _ (List.getElem?_eq_getElem rightBound)] at same
  omega

theorem exists_id {id : Int} (numbered : Numbered states)
    (known : 0 ≤ id ∧ id < states.length) : ∃ state ∈ states, state.id = id := by
  have bound : id.toNat < states.length := by omega
  refine ⟨states[id.toNat], List.getElem_mem bound, ?_⟩
  rw [numbered id.toNat _ (List.getElem?_eq_getElem bound)]
  omega

end Numbered

/-- A registry that was opened with a first state: ids are places, every other state has the stamp
of the registry, and the tables are within their bounds. -/
structure Opened (first : State) (registry : Registry) : Prop where
  states : ∃ count others, registry.states = { first with transitionCount := count } :: others ∧
    ∀ state ∈ others, state.requiresZeroTrust = registry.zeroTrust
  ids : ∀ (index : Nat) (state : State), registry.states[index]? = some state → state.id = index
  states_le : (registry.states.length : Int) ≤ registry.limits.states
  transitions_le : (registry.transitions.length : Int) ≤ registry.limits.transitions

theorem Opened.register {first state : State} {patternType : Datum} {rule : Option Text}
    (opened : registry.Opened first)
    (registered : registry.register patternType rule validator = .ok (state, after)) :
    after.Opened first := by
  obtain ⟨known, text, _, _, _, room, _, _, rfl, rfl⟩ := register_ok registered
  obtain ⟨count, others, shape, stamps⟩ := opened.states
  refine ⟨⟨count, others ++ [registry.newState known text validator none], ?_, ?_⟩, ?_, ?_,
    opened.transitions_le⟩
  · dsimp only
    rw [shape, List.cons_append]
  · intro other member
    rcases List.mem_append.mp member with old | new
    · exact stamps other old
    · obtain rfl := List.mem_singleton.mp new
      rfl
  · exact Numbered.concat opened.ids rfl
  · simp only [List.length_append, List.length_singleton]
    omega

theorem Opened.addTransition {first : State} {source target : Int} {symbol : Datum}
    {weight : Amount} {transition : Transition} (opened : registry.Opened first)
    (declared : registry.addTransition source target symbol weight validator =
      .ok (transition, after)) :
    after.Opened first := by
  obtain ⟨_, _, _, _, _, room, _, rfl⟩ := addTransition_ok declared
  obtain ⟨count, others, shape, stamps⟩ := opened.states
  obtain ⟨counted, recounted⟩ := countTransition_eq source { first with transitionCount := count }
  refine ⟨⟨counted, others.map (countTransition source), ?_, ?_⟩, ?_, ?_, ?_⟩
  · dsimp only
    rw [shape, List.map_cons, recounted]
  · intro state member
    obtain ⟨old, listed, rfl⟩ := List.mem_map.mp member
    rw [countTransition_requiresZeroTrust]
    exact stamps old listed
  · exact Numbered.counted opened.ids source
  · rw [List.length_map]
    exact opened.states_le
  · simp only [List.length_append, List.length_singleton]
    omega

end Registry

end ProtocolGate
