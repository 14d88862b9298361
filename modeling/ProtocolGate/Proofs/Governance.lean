import ProtocolGate.Governance
import ProtocolGate.Proofs.Decimal.Order

/-!
Costs and zones. A charge is never below zero, a cost grows with what it is made of, and a larger
cost is never in an earlier zone.
-/

namespace ProtocolGate.Governance

open Decimal

def Zone.rank : Zone → ℕ
  | autonomous => 0
  | warning => 1
  | governance => 2

theorem charge_ok {total amount sum : Float} (charged : charge total (.float amount) = .ok sum) :
    ¬ amount < 0 ∧ amount.isFinite = true ∧ sum = total + amount := by
  unfold charge at charged
  split at charged
  · contradiction
  · rename_i positive
    dsimp only [Amount.toFloat?] at charged
    split at charged
    · rename_i finite
      exact ⟨by simpa [Amount.isNegative] using positive, finite, (Except.ok.inj charged).symm⟩
    · contradiction

theorem charge_nonneg {total amount sum : Float}
    (charged : charge total (.float amount) = .ok sum) : 0 ≤ amount := by
  obtain ⟨positive, finite, _⟩ := charge_ok charged
  exact nonneg_of_finite finite positive

theorem stateCost_rate : 0 < stateCost ∧ stateCost.isFinite = true := by decide +kernel

theorem transitionCost_rate : 0 < transitionCost ∧ transitionCost.isFinite = true := by
  decide +kernel

theorem rate_mono {rate : Float} (proper : 0 < rate ∧ rate.isFinite = true) {count more : ℕ}
    (le : count ≤ more) : 0 ≤ rate * ofInt count ∧ rate * ofInt count ≤ rate * ofInt more :=
  ⟨product_nonneg proper.1 proper.2 (ofInt_nonneg count),
    product_mono proper.1 proper.2 (ofInt_nonneg count) (ofInt_mono le)⟩

theorem zeroTrustCost_nonneg : 0 ≤ zeroTrustCost := by decide +kernel

/-- Of two engines in the same mode the one that has accumulated no less and that holds no fewer
states and transitions costs no less. -/
theorem cost_mono {accumulated more : Float} (nonneg : 0 ≤ accumulated) (le : accumulated ≤ more)
    {states moreStates transitions moreTransitions : ℕ} (statesLe : states ≤ moreStates)
    (transitionsLe : transitions ≤ moreTransitions) (zeroTrust : Bool) :
    0 ≤ cost accumulated states transitions zeroTrust ∧
      cost accumulated states transitions zeroTrust ≤
        cost more moreStates moreTransitions zeroTrust := by
  obtain ⟨stateNonneg, stateLe⟩ := rate_mono stateCost_rate statesLe
  obtain ⟨transitionNonneg, transitionLe⟩ := rate_mono transitionCost_rate transitionsLe
  have first := sum_mono nonneg le stateNonneg stateLe
  have firstNonneg := sum_nonneg nonneg stateNonneg
  have second := sum_mono firstNonneg first transitionNonneg transitionLe
  have secondNonneg := sum_nonneg firstNonneg transitionNonneg
  cases zeroTrust with
  | false => exact ⟨secondNonneg, second⟩
  | true =>
      exact ⟨sum_nonneg secondNonneg zeroTrustCost_nonneg,
        sum_mono secondNonneg second zeroTrustCost_nonneg
          (self_le_of_nonneg zeroTrustCost_nonneg)⟩

theorem zone_mono {cost more : Float} (nonneg : 0 ≤ cost) (le : cost ≤ more)
    (autonomousThreshold warningThreshold : Float) :
    (zone cost autonomousThreshold warningThreshold).rank ≤
      (zone more autonomousThreshold warningThreshold).rank := by
  have first (within : more ≤ autonomousThreshold) : cost ≤ autonomousThreshold :=
    trans_of_nonneg nonneg le within
  have second (within : more ≤ warningThreshold) : cost ≤ warningThreshold :=
    trans_of_nonneg nonneg le within
  unfold zone
  by_cases autonomous : more ≤ autonomousThreshold
  · rw [if_pos autonomous, if_pos (first autonomous)]
  · rw [if_neg autonomous]
    split
    · exact Nat.zero_le _
    · by_cases warning : more ≤ warningThreshold
      · rw [if_pos warning, if_pos (second warning)]
      · rw [if_neg warning]
        split <;> decide

end ProtocolGate.Governance
