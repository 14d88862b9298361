import ProtocolGate.Proofs.Engine.Accounting
import ProtocolGate.Proofs.Governance

/-!
The growth of an engine. From one start to the next, or to a stop, nothing of what a cost is made of
ever shrinks, so neither does the cost, and the zone never falls back.
-/

namespace ProtocolGate

def Event.isLifecycle : Event → Bool
  | .started _ | .startRefused _ | .stopped => true
  | .registered _ | .declared _ | .scanned _ => false

namespace Engine

/-- A later engine of the same life has kept the mode and has lost nothing that costs. -/
structure Grown (first later : Engine) : Prop where
  config : later.config = first.config
  live : later.initialized = true
  zeroTrust : later.zeroTrust = first.zeroTrust
  nonneg : 0 ≤ later.accumulated
  accumulated : first.accumulated ≤ later.accumulated
  states : first.registry.states.length ≤ later.registry.states.length
  transitions : first.registry.transitions.length ≤ later.registry.transitions.length

theorem Grown.refl {engine : Engine} (live : engine.initialized = true)
    (nonneg : 0 ≤ engine.accumulated) : Grown engine engine :=
  ⟨rfl, live, rfl, nonneg, Decimal.self_le_of_nonneg nonneg, le_rfl, le_rfl⟩

theorem Step.accumulated_nonneg {engine after : Engine} {event : Event}
    (step : Step engine event after) (nonneg : 0 ≤ engine.accumulated) :
    0 ≤ after.accumulated := by
  have fresh : (0 : Float) ≤ ({} : Books).accumulated := by decide +kernel
  have same : after.accumulated = (event.book engine.books).accumulated :=
    congrArg Books.accumulated step.books
  rw [same]
  cases step with
  | started | startRefused | stopped => exact fresh
  | registered | declared => exact nonneg
  | scanned _ _ charged =>
      exact Decimal.sum_nonneg nonneg (Governance.charge_nonneg charged)

theorem Step.grown {first engine after : Engine} {event : Event} (step : Step engine event after)
    (within : event.isLifecycle = false) (nonneg : 0 ≤ first.accumulated)
    (before : Grown first engine) : Grown first after := by
  cases step with
  | started | startRefused | stopped => contradiction
  | registered live registered =>
      obtain ⟨_, _, _, _, _, _, _, _, _, rfl⟩ := Registry.register_ok registered
      refine { before with states := before.states.trans ?_ }
      rw [List.length_append]
      exact Nat.le_add_right _ _
  | declared live declared =>
      obtain ⟨_, _, _, _, _, _, _, rfl⟩ := Registry.addTransition_ok declared
      refine { before with states := ?_, transitions := before.transitions.trans ?_ }
      · exact before.states.trans (List.length_map _).ge
      · rw [List.length_append]
        exact Nat.le_add_right _ _
  | scanned live _ charged =>
      have increment := Governance.charge_nonneg charged
      obtain ⟨_, _, rfl⟩ := Governance.charge_ok charged
      have grows := Decimal.le_sum before.nonneg increment
      refine { before with nonneg := ?_, accumulated := ?_ }
      · exact Decimal.sum_nonneg before.nonneg increment
      · exact Decimal.trans_of_nonneg nonneg before.accumulated grows

theorem Path.grown {first later : Engine} {events : List Event} (path : Path first events later)
    (within : ∀ event ∈ events, event.isLifecycle = false) (live : first.initialized = true)
    (nonneg : 0 ≤ first.accumulated) : Grown first later := by
  refine path.invariant [] (fun events engine => (∀ event ∈ events, event.isLifecycle = false) →
    Grown first engine) ?_ ?_ (fun _ => .refl live nonneg) within
  · intro events engine text _ before within
    exact { before within with }
  · intro events engine event after step before within
    refine step.grown (within event (List.mem_append_right _ List.mem_cons_self)) nonneg ?_
    exact before fun other member => within other (List.mem_append_left _ member)

theorem Grown.cost_zone {first later : Engine} (grown : Grown first later)
    (live : first.initialized = true) (nonneg : 0 ≤ first.accumulated) :
    ∃ cost laterCost zone laterZone, first.cost = .ok cost ∧ later.cost = .ok laterCost ∧
      cost ≤ laterCost ∧ first.zone = .ok zone ∧ later.zone = .ok laterZone ∧
      zone.rank ≤ laterZone.rank := by
  obtain ⟨costNonneg, costLe⟩ := Governance.cost_mono nonneg grown.accumulated grown.states
    grown.transitions first.zeroTrust
  have cost : first.cost = .ok (Governance.cost first.accumulated first.registry.states.length
      first.registry.transitions.length first.zeroTrust) := if_pos live
  have laterCost : later.cost = .ok (Governance.cost later.accumulated
      later.registry.states.length later.registry.transitions.length first.zeroTrust) := by
    rw [← grown.zeroTrust]
    exact if_pos grown.live
  have zones := Governance.zone_mono costNonneg costLe first.config.autonomousThreshold
    first.config.warningThreshold
  refine ⟨_, _, _, _, cost, laterCost, costLe, ?_, ?_, zones⟩
  · rw [zone, cost]
    rfl
  · rw [zone, laterCost, grown.config]
    rfl

end Engine

namespace Session

open Engine

theorem Reachable.accumulated_nonneg {config : Config} {session : Session}
    (reachable : Reachable config session) : 0 ≤ session.engine.accumulated := by
  refine reachable.invariant (fun engine => 0 ≤ engine.accumulated) ?_ ?_ ?_
  · show (0 : Float) ≤ 0
    decide +kernel
  · exact fun _ _ _ nonneg => nonneg
  · exact fun _ _ _ step nonneg => step.accumulated_nonneg nonneg

/-- From any point of a run on, as long as the engine is neither started again nor stopped, the cost
never falls and the zone never moves back, whichever of the operations fail. -/
theorem run_cost_zone_grow (config : Config) (earlier later : List Operation)
    (live : ((new config).run earlier).engine.initialized = true)
    (within : ∀ event ∈ ((new config).run earlier).history later, event.isLifecycle = false) :
    let first := ((new config).run earlier).engine
    let second := ((new config).run (earlier ++ later)).engine
    ∃ cost laterCost zone laterZone, first.cost = .ok cost ∧ second.cost = .ok laterCost ∧
      cost ≤ laterCost ∧ first.zone = .ok zone ∧ second.zone = .ok laterZone ∧
      zone.rank ≤ laterZone.rank := by
  intro first second
  have nonneg : 0 ≤ first.accumulated := (reachable_run config earlier).accumulated_nonneg
  have path : Path first (((new config).run earlier).history later) second := by
    have continued : second = (((new config).run earlier).run later).engine := by
      simp only [second, run, List.foldl_append]
    rw [continued]
    exact ((new config).run earlier).run_path later
  exact (path.grown within live nonneg).cost_zone live nonneg

/-- A registration without a rule is refused, a validator raises in the first scan, the second scan
runs to completion, and the transition leads to no state. -/
@[irreducible]
def troubledRun : List Operation :=
  [.register (.text "security_token".toList) none none, .process (.text "abaaa".toList),
    .process (.text "abababababab".toList), .addTransition 0 9 (.text ['x']) (.whole 1) none]

theorem run_cost_zone_grow_troubled :
    let first := ((new {}).run [.start true, raisingToken]).engine
    let second := ((new {}).run ([.start true, raisingToken] ++ troubledRun)).engine
    first.zone.toOption = some .autonomous ∧ second.zone.toOption = some .governance ∧
      ∃ cost laterCost, first.cost = .ok cost ∧ second.cost = .ok laterCost ∧
        cost ≤ laterCost := by
  have live : ((new {}).run [.start true, raisingToken]).engine.initialized = true := by
    decide +kernel
  have within : ∀ event ∈ ((new {}).run [.start true, raisingToken]).history troubledRun,
      event.isLifecycle = false := by
    decide +kernel
  obtain ⟨cost, laterCost, _, _, costs, laterCosts, le, _⟩ :=
    run_cost_zone_grow {} [.start true, raisingToken] troubledRun live within
  refine ⟨?_, ?_, cost, laterCost, costs, laterCosts, le⟩
  · decide +kernel
  · decide +kernel

end Session

end ProtocolGate
