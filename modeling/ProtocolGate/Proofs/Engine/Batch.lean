import ProtocolGate.Proofs.Engine.Independence

/-!
Registering patterns one after the other. A batch whose rules are all in order is taken up to the
room that the table has left, and what was taken before the table is full stays: only a table with
room for the whole batch, or with no room at all, makes the standard patterns all or nothing.
-/

namespace ProtocolGate

@[simp]
theorem PatternType.ofDatum?_name (patternType : PatternType) :
    ofDatum? (.text patternType.name.toList) = some patternType := by
  cases patternType <;> rfl

namespace Registry

/-- Nothing but a full table keeps the rule out. -/
def Admits (registry : Registry) (rule : Text) : Prop :=
  rule ≠ [] ∧ (rule.length : Int) ≤ registry.limits.ruleLength ∧
    ∃ compiled, Pattern.compile registry.ignoreCase rule = .ok compiled

def room (registry : Registry) : Nat :=
  (registry.limits.states - registry.states.length).toNat

def append (registry : Registry) (pattern : PatternType × Text) : Registry :=
  { registry with
    states := registry.states ++ [registry.newState pattern.1 pattern.2 none none] }

/-- The states of patterns that are registered one after the other, under the next ids. -/
def fresh (registry : Registry) (patterns : List (PatternType × Text)) : List State :=
  patterns.mapIdx fun index pattern =>
    { id := ((registry.states.length + index : Nat) : Int), patternType := pattern.1
      rule := pattern.2, accepting := pattern.1.isAccepting
      requiresZeroTrust := registry.zeroTrust }

def appendAll (registry : Registry) (patterns : List (PatternType × Text)) : Registry :=
  { registry with states := registry.states ++ registry.fresh patterns }

@[simp]
theorem appendAll_nil (registry : Registry) : registry.appendAll [] = registry := by
  simp [appendAll, fresh]

theorem appendAll_append (registry : Registry) (pattern : PatternType × Text)
    (others : List (PatternType × Text)) :
    (registry.append pattern).appendAll others = registry.appendAll (pattern :: others) := by
  have shift (index : Nat) :
      registry.states.length + 1 + index = registry.states.length + (index + 1) := by omega
  simp only [appendAll, append, fresh, newState, List.length_append, List.length_singleton,
    List.mapIdx_cons, shift, List.append_assoc, List.singleton_append, Option.getD_none,
    Nat.add_zero]

theorem register_full {registry : Registry} {rule : Text} (admits : registry.Admits rule)
    (full : registry.room = 0) (patternType : PatternType) :
    registry.register (.text patternType.name.toList) (some rule) none =
      .error (.statesFull registry.limits.states) := by
  obtain ⟨nonempty, _, _⟩ := admits
  unfold room at full
  have bound : registry.limits.states ≤ registry.states.length := by omega
  simp [register, nonempty, bound]

theorem register_admitted {registry : Registry} {rule : Text} (admits : registry.Admits rule)
    (free : 0 < registry.room) (patternType : PatternType) :
    registry.register (.text patternType.name.toList) (some rule) none =
      .ok (registry.newState patternType rule none none, registry.append (patternType, rule)) := by
  obtain ⟨nonempty, short, compiled, compiles⟩ := admits
  unfold room at free
  have bound : ¬ registry.limits.states ≤ registry.states.length := by omega
  have fits : ¬ registry.limits.ruleLength < rule.length := by omega
  simp [register, nonempty, bound, fits, compiles, newState, append]

theorem room_append (registry : Registry) (pattern : PatternType × Text) :
    (registry.append pattern).room = registry.room - 1 := by
  simp only [room, append, List.length_append, List.length_singleton]
  omega

end Registry

namespace Engine

def appendAll (engine : Engine) (patterns : List (PatternType × Text)) : Engine :=
  { engine with registry := engine.registry.appendAll patterns }

def nextIds (engine : Engine) (count : Nat) : List Int :=
  (List.range' engine.registry.states.length count).map Int.ofNat

theorem registerEach_admitted {engine : Engine} (live : engine.initialized = true)
    {patterns : List (PatternType × Text)}
    (admitted : ∀ pattern ∈ patterns, engine.registry.Admits pattern.2) :
    engine.registerEach patterns =
      if patterns.length ≤ engine.registry.room then
        (.ok (engine.nextIds patterns.length), engine.appendAll patterns)
      else
        (.error (.statesFull engine.registry.limits.states),
          engine.appendAll (patterns.take engine.registry.room)) := by
  induction patterns generalizing engine with
  | nil => simp [registerEach, nextIds, appendAll]
  | cons pattern others ih =>
      obtain ⟨patternType, rule⟩ := pattern
      have admits : engine.registry.Admits rule := admitted (patternType, rule) List.mem_cons_self
      unfold registerEach register
      by_cases full : engine.registry.room = 0
      · rw [if_pos live, Registry.register_full admits full]
        simp [full, appendAll]
      · rw [if_pos live, Registry.register_admitted admits (by omega)]
        -- The engine that meets the other patterns has one state more and room for one less.
        let grown : Engine :=
          { engine with registry := engine.registry.append (patternType, rule) }
        have room : grown.registry.room = engine.registry.room - 1 :=
          Registry.room_append engine.registry (patternType, rule)
        have rest : grown.registerEach others = _ := @ih grown live
          fun pattern member => admitted pattern (List.mem_cons_of_mem _ member)
        have count : grown.registry.states.length = engine.registry.states.length + 1 := by
          simp [grown, Registry.append]
        have taken (patterns : List (PatternType × Text)) :
            grown.appendAll patterns = engine.appendAll ((patternType, rule) :: patterns) := by
          simp only [grown, appendAll, Registry.appendAll_append]
        dsimp only
        rw [rest, room]
        by_cases fits : others.length + 1 ≤ engine.registry.room
        · rw [if_pos (by omega), if_pos (by simpa using fits)]
          simp [nextIds, count, taken, Registry.newState, List.range'_succ]
        · rw [if_neg (by omega), if_neg (by simpa using fits), taken]
          obtain ⟨left, roomEq⟩ := Nat.exists_eq_succ_of_ne_zero full
          simp [roomEq, grown, Registry.append]

theorem standardPatterns_sublist (includeHeader : Bool) :
    (standardPatterns includeHeader).Sublist StandardRule.patterns :=
  List.filter_sublist

theorem standardPatterns_length (includeHeader : Bool) :
    (standardPatterns includeHeader).length = if includeHeader then 5 else 4 := by
  revert includeHeader
  decide +kernel

theorem standardRule_admissible (ignoreCase : Bool) {pattern : PatternType × Text}
    (standard : pattern ∈ StandardRule.patterns) :
    pattern.2 ≠ [] ∧ pattern.2.length ≤ StandardRule.header.length ∧
      ∃ compiled, Pattern.compile ignoreCase pattern.2 = .ok compiled := by
  have checked : ∀ ignoreCase, StandardRule.patterns.all (fun pattern =>
      !pattern.2.isEmpty && decide (pattern.2.length ≤ StandardRule.header.length) &&
        (Pattern.compile ignoreCase pattern.2).isOk) = true := by
    decide +kernel
  have here := List.all_eq_true.mp (checked ignoreCase) pattern standard
  simp only [Bool.and_eq_true, Bool.not_eq_true', List.isEmpty_eq_false_iff,
    decide_eq_true_eq] at here
  obtain ⟨⟨nonempty, short⟩, compiles⟩ := here
  exact ⟨nonempty, short, Pattern.exists_compiled compiles⟩

end Engine

namespace Session

open Engine

theorem Reachable.admits_standard {config : Config} {session : Session}
    (reachable : Reachable config session) (live : session.engine.initialized = true)
    {pattern : PatternType × Text} (standard : pattern ∈ StandardRule.patterns) :
    session.engine.registry.Admits pattern.2 := by
  have header := room_of_initialized reachable live
  have limits := reachable.configured.limits
  obtain ⟨nonempty, short, compiles⟩ :=
    standardRule_admissible session.engine.registry.ignoreCase standard
  refine ⟨nonempty, ?_, compiles⟩
  rw [limits]
  simp only [newRegistry]
  omega

theorem Reachable.room {config : Config} {session : Session}
    (reachable : Reachable config session) :
    session.engine.registry.room = config.maxStates - session.engine.registry.states.length := by
  rw [Registry.room, reachable.configured.limits]
  simp only [newRegistry]
  omega

/-- The standard patterns on any engine in use. If the table has room for all of them, they are
registered under the next ids. Otherwise the call fails, and as many of them as the table had room
for are registered and stay: the states are as they were exactly if there was no room at all. -/
theorem registerStandard_outcome {config : Config} {session : Session}
    (reachable : Reachable config session) (live : session.engine.initialized = true)
    (includeHeader : Bool) :
    ((standardPatterns includeHeader).length ≤
        config.maxStates - session.engine.registry.states.length →
      session.engine.registerStandard includeHeader =
        (.ok (session.engine.nextIds (standardPatterns includeHeader).length),
          session.engine.appendAll (standardPatterns includeHeader))) ∧
    (config.maxStates - session.engine.registry.states.length <
        (standardPatterns includeHeader).length →
      session.engine.registerStandard includeHeader =
        (.error (.statesFull config.maxStates),
          session.engine.appendAll ((standardPatterns includeHeader).take
            (config.maxStates - session.engine.registry.states.length))) ∧
      ((session.engine.registerStandard includeHeader).2.registry.states =
          session.engine.registry.states ↔
        config.maxStates ≤ session.engine.registry.states.length)) := by
  have outcome := registerEach_admitted live fun pattern member =>
    reachable.admits_standard live ((standardPatterns_sublist includeHeader).mem member)
  have bound : session.engine.registry.limits.states = config.maxStates := by
    rw [reachable.configured.limits]
    rfl
  rw [reachable.room, bound] at outcome
  constructor
  · intro fits
    rw [registerStandard, outcome, if_pos fits]
  · intro tight
    have failed := outcome
    rw [if_neg (by omega)] at failed
    refine ⟨failed, ?_⟩
    rw [registerStandard, failed]
    constructor
    · intro same
      have length := congrArg List.length same
      simp only [Engine.appendAll, Registry.appendAll, Registry.fresh, List.length_append,
        List.length_mapIdx, List.length_take] at length
      omega
    · intro full
      simp [Engine.appendAll, Nat.sub_eq_zero_of_le full]

theorem registerStandard_outcome_partial :
    ((new { maxStates := 3 }).run [.start true]).engine.registry.states.length = 1 ∧
    (((new { maxStates := 3 }).run [.start true]).engine.registerStandard false).1 =
      .error (.statesFull 3) ∧
    (((new { maxStates := 3 }).run [.start true]).engine.registerStandard
      false).2.registry.states.map (·.patternType) =
        [.protocolHeader, .securityToken, .schemaReference] := by
  have reachable := reachable_run { maxStates := 3 } [.start true]
  have live : ((new { maxStates := 3 }).run [.start true]).engine.initialized = true := by
    decide +kernel
  have one : ((new { maxStates := 3 }).run [.start true]).engine.registry.states.length = 1 := by
    decide +kernel
  have tight : ({ maxStates := 3 } : Config).maxStates -
      ((new { maxStates := 3 }).run [.start true]).engine.registry.states.length <
        (standardPatterns false).length := by
    rw [one, standardPatterns_length]
    decide
  obtain ⟨failed, _⟩ := (registerStandard_outcome reachable live false).2 tight
  rw [failed]
  refine ⟨one, rfl, ?_⟩
  decide +kernel

end Session

end ProtocolGate
