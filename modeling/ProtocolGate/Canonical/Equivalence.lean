import ProtocolGate.Canonical.Context

/-!
Equivalence of inputs: the same canonical form under the same bound. A truncated form never
establishes that two inputs are the same.
-/

namespace ProtocolGate.Canonical.Context

def normalizeBoth (context : Context) (first second : Datum) (bound : Option Int := none) :
    Except Fault (Form × Form) × Context :=
  match context.normalize first bound with
  | (.error fault, context) => (.error fault, context)
  | (.ok firstForm, context) =>
    match context.normalize second bound with
    | (.error fault, context) => (.error fault, context)
    | (.ok secondForm, context) => (.ok (firstForm, secondForm), context)

def sameForm (first second : Form) : Bool :=
  !first.truncated && !second.truncated && first.text == second.text

def equivalent (context : Context) (first second : Datum) (bound : Option Int := none) :
    Except Fault Bool × Context :=
  let (forms, context) := context.normalizeBoth first second bound
  (forms.map fun (firstForm, secondForm) => sameForm firstForm secondForm, context)

def commonForm (first second : Form) : Except Fault Text :=
  if first.truncated || second.truncated then
    .error (.formsTruncated first.truncated second.truncated)
  else if first.text ≠ second.text then
    .error (.formsDiffer first.length second.length)
  else
    .ok first.text

def requireEquivalent (context : Context) (first second : Datum) (bound : Option Int := none) :
    Except Fault Text × Context :=
  let (forms, context) := context.normalizeBoth first second bound
  (forms.bind fun (firstForm, secondForm) => commonForm firstForm secondForm, context)

end ProtocolGate.Canonical.Context
