import ProtocolGate.Proofs.Engine.Runs
import ProtocolGate.Proofs.Pattern.Compiled

/-!
Equivalent inputs in an engine. Processing looks at an input only to see whether it is empty, and
from there on at its canonical form; so an engine does the same with all equivalent inputs.
-/

namespace ProtocolGate

namespace Engine

variable {engine : Engine} {data : Datum}

theorem process_empty (live : engine.initialized = true)
    (read : Canonical.inputText data = .ok []) :
    engine.process data = (.error (.fault .inputEmpty), engine) := by
  simp only [process, live, if_true, read]

theorem process_nonempty {text : Text} {form : Canonical.Form} {context : Canonical.Context}
    (live : engine.initialized = true) (read : Canonical.inputText data = .ok text)
    (nonempty : text ≠ []) (normalized : engine.context.normalize data = (.ok form, context)) :
    engine.process data =
      if form.truncated && engine.config.rejectTruncated then
        (.error (.fault (.inputTruncated form.length)), { engine with context })
      else
        ({ engine with context } : Engine).scanForm form := by
  obtain ⟨c, rest, rfl⟩ := List.exists_cons_of_ne_nil nonempty
  simp only [process, live, if_true, read, normalized]

theorem Configured.standard {config : Config} (configured : engine.Configured config) :
    engine.context.policy.table = .standard := by
  rw [configured.context]
  rfl

/-- A complete form is empty exactly if the input is, and this is all that processing takes from the
input itself. -/
theorem process_form {config : Config} (configured : engine.Configured config)
    (live : engine.initialized = true) {form : Canonical.Form}
    (complete : form.truncated = false)
    (normalized : engine.context.normalize data = (.ok form, engine.context.hold form)) :
    engine.process data =
      if form.text = [] then (.error (.fault .inputEmpty), engine)
      else ({ engine with context := engine.context.hold form } : Engine).scanForm form := by
  obtain ⟨text, read, _, rfl⟩ :=
    Canonical.Context.inputText_of_normalize (congrArg Prod.fst normalized)
  have empty := Canonical.Policy.form_text_eq_nil_iff configured.standard complete
  by_cases none : text = []
  · rw [if_pos (empty.mpr none)]
    rw [none] at read
    exact process_empty live read
  · rw [if_neg (fun blank => none (empty.mp blank)),
      process_nonempty live read none normalized, complete]
    rfl

end Engine

namespace Session

/-- From any state of an engine, processing does the same with two equivalent inputs, and so does
validation: they answer with the same outcome or fail with the same failure, and they leave the same
engine. -/
theorem process_of_equivalent {config : Config} {session : Session}
    (reachable : Reachable config session) {first second : Datum}
    (same : (session.engine.equivalent first second).1 = .ok true) :
    session.engine.process first = session.engine.process second ∧
      session.engine.validate first = session.engine.validate second := by
  unfold Engine.equivalent at same
  split at same
  · rename_i live
    obtain ⟨form, complete, firstForm, secondForm⟩ := Canonical.Context.equivalent_form same
    have processed : session.engine.process first = session.engine.process second := by
      rw [Engine.process_form reachable.configured live complete firstForm,
        Engine.process_form reachable.configured live complete secondForm]
    refine ⟨processed, ?_⟩
    unfold Engine.validate
    rw [processed]
  · contradiction

@[irreducible]
def pathSession (config : Config) : Session :=
  (new config).run [.start true,
    .register (.text "data_payload".toList) (some "(\\.\\./)+".toList) none]

theorem process_of_equivalent_path :
    (pathSession {}).engine.process (.text "%2e%2E%2f..%2F".toList) =
      (pathSession {}).engine.process (.bytes [46, 46, 47, 46, 46, 47]) ∧
    ((pathSession {}).engine.process (.text "%2e%2E%2f..%2F".toList)).1.isOk = true ∧
    (pathSession {}).engine.process (.text []) = (pathSession {}).engine.process (.bytes []) := by
  have reachable : Reachable {} (pathSession {}) := by
    unfold pathSession
    exact reachable_run {} _
  have paths : ((pathSession {}).engine.equivalent (.text "%2e%2E%2f..%2F".toList)
      (.bytes [46, 46, 47, 46, 46, 47])).1 = .ok true := eq_ok_of_toOption (by decide +kernel)
  have empties : ((pathSession {}).engine.equivalent (.text []) (.bytes [])).1 = .ok true :=
    eq_ok_of_toOption (by decide +kernel)
  exact ⟨(process_of_equivalent reachable paths).1, by decide +kernel,
    (process_of_equivalent reachable empties).1⟩

end Session

end ProtocolGate
