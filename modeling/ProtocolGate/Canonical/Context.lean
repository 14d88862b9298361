import ProtocolGate.Canonical.Form
import ProtocolGate.Fault

/-!
A canonicalisation context: a policy, and a holding area that keeps the latest form that fits it.
-/

namespace ProtocolGate.Canonical

def inputText : Datum → Except Fault Text
  | .nothing => .error .inputMissing
  | .text text => .ok text
  | .bytes bytes | .byteBuffer bytes => .ok (bytes.map fun byte => Char.ofNat byte.toNat)
  | other => .error (.inputKind other.kindName)

/-- A policy with a holding area; one of its places is kept for a terminator. -/
structure Context where
  policy : Policy := {}
  bufferSize : Nat := 8192
  held : Text := []
  two_le_bufferSize : 2 ≤ bufferSize := by decide

namespace Context

def make (policy : Policy) (bufferSize : Int) : Except Fault Context :=
  if large : 2 ≤ bufferSize then
    .ok { policy, bufferSize := bufferSize.toNat, two_le_bufferSize := by omega }
  else
    .error (.bufferTooSmall bufferSize)

def hold (context : Context) (form : Form) : Context :=
  if form.length < context.bufferSize then { context with held := form.text } else context

/-- The canonical form of an input in less than `bound` characters, by default less than the size of
the holding area. A refused input leaves the context as it was. -/
def normalize (context : Context) (data : Datum) (bound : Option Int := none) :
    Except Fault Form × Context :=
  match inputText data with
  | .error fault => (.error fault, context)
  | .ok text =>
    let limit := bound.getD context.bufferSize
    if limit < 1 then
      (.error (.boundTooSmall limit), context)
    else
      let form := context.policy.form (limit - 1).toNat text
      (.ok form, context.hold form)

end Context

end ProtocolGate.Canonical
