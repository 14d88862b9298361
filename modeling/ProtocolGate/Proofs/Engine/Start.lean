import ProtocolGate.Proofs.Config
import ProtocolGate.Proofs.Engine.Runs
import ProtocolGate.Proofs.Pattern.Compiled

/-!
Starting an engine. The one limit that can stand in the way is that on the length of a rule: a valid
configuration may leave less room than the header rule takes.
-/

namespace ProtocolGate

namespace Engine

def headerState : State where
  id := initialState
  patternType := .protocolHeader
  rule := StandardRule.header
  accepting := false
  requiresZeroTrust := true

def idle (config : Config) (zeroTrust : Bool) : Engine :=
  { create config with zeroTrust, registry := newRegistry config zeroTrust }

def started (config : Config) (zeroTrust : Bool) : Engine where
  config := config
  initialized := true
  zeroTrust := zeroTrust
  currentState := 0
  accumulated := 0
  context := newContext config
  registry := { newRegistry config zeroTrust with states := [headerState] }

theorem header_length : StandardRule.header.length = 29 := by decide +kernel

theorem header_nonempty : StandardRule.header.isEmpty = false := by decide +kernel

theorem header_compiles (ignoreCase : Bool) :
    ∃ compiled, Pattern.compile ignoreCase StandardRule.header = .ok compiled := by
  have compiles : ∀ ignoreCase,
      (Pattern.compile ignoreCase StandardRule.header).isOk = true := by decide +kernel
  exact Pattern.exists_compiled (compiles ignoreCase)

theorem register_header (config : Config) (zeroTrust : Bool) :
    (newRegistry config zeroTrust).register (.text PatternType.protocolHeader.name.toList)
        (some StandardRule.header) none (some true) =
      if StandardRule.header.length ≤ config.maxPatternLength then
        .ok (headerState, (started config zeroTrust).registry)
      else
        .error (.ruleTooLong config.maxPatternLength StandardRule.header.length) := by
  have known : PatternType.ofDatum? (.text PatternType.protocolHeader.name.toList) =
      some .protocolHeader := rfl
  have room : ¬ (config.maxStates : Int) ≤ 0 := by
    have := config.one_le_maxStates
    omega
  obtain ⟨compiled, compiles⟩ := header_compiles config.caseFold
  simp only [Registry.register, newRegistry, Option.getD_some, header_nonempty, room, known,
    compiles, List.length_nil, Int.natCast_zero, Bool.false_eq_true, if_false]
  by_cases short : StandardRule.header.length ≤ config.maxPatternLength
  · rw [if_pos short, if_neg (by omega)]
    rfl
  · rw [if_neg short, if_pos (by omega)]

theorem start_eq (engine : Engine) (zeroTrust : Bool) :
    engine.start zeroTrust =
      if StandardRule.header.length ≤ engine.config.maxPatternLength then
        (.ok (), started engine.config zeroTrust)
      else
        (.error (.ruleTooLong engine.config.maxPatternLength StandardRule.header.length),
          { idle engine.config zeroTrust with initialized := engine.initialized }) := by
  simp only [start, register_header]
  by_cases short : StandardRule.header.length ≤ engine.config.maxPatternLength
  · rw [if_pos short, if_pos short]
    rfl
  · rw [if_neg short, if_neg short]
    rfl

theorem started_of_room {engine after : Engine} {zeroTrust : Bool} {result : Except Fault Unit}
    (room : StandardRule.header.length ≤ engine.config.maxPatternLength)
    (outcome : engine.start zeroTrust = (result, after)) :
    result = .ok () ∧ after = started engine.config zeroTrust := by
  rw [start_eq, if_pos room] at outcome
  obtain ⟨rfl, rfl⟩ := Prod.mk.inj outcome
  exact ⟨rfl, rfl⟩

theorem idle_eq_iff (config : Config) (left right : Bool) :
    idle config left = idle config right ↔ left = right := by
  constructor
  · intro same
    exact congrArg zeroTrust same
  · intro same
    rw [same]

end Engine

namespace Session

open Engine

theorem Reachable.config {config : Config} {session : Session}
    (reachable : Reachable config session) : session.engine.config = config :=
  reachable.configured.same

theorem Reachable.idle {config : Config} {session : Session} (reachable : Reachable config session)
    (tight : config.maxPatternLength < StandardRule.header.length) :
    session.engine = Engine.idle config session.engine.zeroTrust := by
  have noRoom : ¬ StandardRule.header.length ≤ config.maxPatternLength := by omega
  have dead {engine : Engine} (same : engine = Engine.idle config engine.zeroTrust) :
      engine.initialized = false := by
    rw [same]
    rfl
  refine reachable.invariant (fun engine => engine = Engine.idle config engine.zeroTrust) rfl ?_ ?_
  · intro engine text live same
    rw [dead same] at live
    contradiction
  · intro engine event after step same
    rcases step.started_or_live with ⟨zeroTrust, rfl⟩ | live
    · rw [same, start_eq, if_neg]
      · rfl
      · exact noRoom
    · rw [dead same] at live
      contradiction

/-- A start of any reachable engine succeeds exactly if the header fits the limit on rules. Then the
engine holds the header alone. Otherwise the start fails on an engine that was never initialised,
and it leaves all of it as it was if and only if the engine already had the requested mark. -/
theorem start_reachable {config : Config} {session : Session} (reachable : Reachable config session)
    (zeroTrust : Bool) :
    (StandardRule.header.length ≤ config.maxPatternLength →
      session.engine.start zeroTrust = (.ok (), started config zeroTrust)) ∧
    (config.maxPatternLength < StandardRule.header.length →
      session.engine = Engine.idle config session.engine.zeroTrust ∧
      session.engine.start zeroTrust =
        (.error (.ruleTooLong config.maxPatternLength StandardRule.header.length),
          Engine.idle config zeroTrust) ∧
      ((session.engine.start zeroTrust).2 = session.engine ↔
        zeroTrust = session.engine.zeroTrust)) := by
  have outcome := session.engine.start_eq zeroTrust
  rw [reachable.config] at outcome
  constructor
  · intro room
    rw [outcome, if_pos room]
  · intro tight
    have before := reachable.idle tight
    have failed : session.engine.start zeroTrust =
        (.error (.ruleTooLong config.maxPatternLength StandardRule.header.length),
          Engine.idle config zeroTrust) := by
      rw [outcome, if_neg (by omega), before]
      rfl
    refine ⟨before, failed, ?_⟩
    rw [failed]
    conv => lhs; rhs; rw [before]
    exact idle_eq_iff config zeroTrust session.engine.zeroTrust

/-- A configuration with room for all but the last character of the header. -/
def tightConfig : Config := { maxPatternLength := 28 }

theorem start_reachable_tight :
    Config.read tightConfig.settings = .ok tightConfig ∧
    (Engine.create tightConfig).zeroTrust = false ∧
    ((Engine.create tightConfig).start true).1 = .error (.ruleTooLong 28 29) ∧
    ((Engine.create tightConfig).start true).2.zeroTrust = true := by
  have tight : tightConfig.maxPatternLength < StandardRule.header.length := by
    rw [header_length]
    decide
  have new : Reachable tightConfig { engine := .create tightConfig } := .created
  obtain ⟨_, failed, _⟩ := (start_reachable new true).2 tight
  refine ⟨tightConfig.read_settings, rfl, ?_, ?_⟩
  · rw [failed, header_length]
    rfl
  · rw [failed]
    rfl

end Session

end ProtocolGate
