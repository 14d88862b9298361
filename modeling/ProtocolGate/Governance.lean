import ProtocolGate.Fault

/-!
Governance: the running cost of matches, the cost of an engine's structure, and the zone that a cost
falls into.
-/

namespace ProtocolGate.Governance

inductive Zone where
  | autonomous
  | warning
  | governance
deriving DecidableEq

def Zone.name : Zone → String
  | autonomous => "autonomous"
  | warning => "warning"
  | governance => "governance"

def stateCost : Float := 0.01

def transitionCost : Float := 0.005

def zeroTrustCost : Float := 0.05

def standardThresholds : Float × Float := (0.5, 0.6)

/-- Adds an amount to a running total; it must be finite and not negative. -/
def charge (total : Float) (amount : Amount) : Except Failure Float :=
  if amount.isNegative then .error (.fault (.increment amount))
  else
    match amount.toFloat? with
    | none => .error .overflow
    | some number =>
      if number.isFinite then .ok (total + number) else .error (.fault (.increment amount))

def cost (accumulated : Float) (states transitions : Int) (zeroTrust : Bool) : Float :=
  let structural :=
    accumulated + stateCost * Decimal.ofInt states + transitionCost * Decimal.ofInt transitions
  if zeroTrust then structural + zeroTrustCost else structural

def zone (cost autonomousThreshold warningThreshold : Float) : Zone :=
  if cost ≤ autonomousThreshold then .autonomous
  else if cost ≤ warningThreshold then .warning
  else .governance

end ProtocolGate.Governance
