import ProtocolGate.Proofs.Specification.Described

/-!
The specification of an engine as a C header. Its text is that of the lines before the table, of one
row for each state, and of the lines after it.
-/

namespace ProtocolGate

namespace Specification.Header

theorem escape_eq (c : Char) :
    escape c = if c = '\\' ∨ c = '"' then ['\\', c] else [c] := by
  simp [escape]

theorem literal_append (text rest : Text) :
    literal text ++ rest = '"' :: (text.flatMap escape ++ '"' :: rest) := by
  simp [literal]

def written (lines : List Text) : Text :=
  lines.flatMap fun line => line ++ ['\n']

theorem written_cons (line : Text) (lines : List Text) :
    written (line :: lines) = line ++ '\n' :: written lines := by
  simp [written]

theorem written_append (left right : List Text) :
    written (left ++ right) = written left ++ written right :=
  List.flatMap_append

def above (specification : Specification) : List Text :=
  opening ++ constants specification ++
    ruleConstants.map (fun (name, rule) => ruleConstant name rule) ++ rowType

def rowStart (entry : StateEntry) : Text :=
  "    \x7b".toList ++ signedNumeral entry.id ++ [',', ' '] ++
    literal entry.patternType.name.toList ++ [',', ' ']

def rowEnd (entry : StateEntry) : Text :=
  [',', ' '] ++ switch entry.isAccepting ++ [',', ' '] ++ switch entry.requiresZeroTrust ++
    ['\x7d', ',']

theorem row_eq (entry : StateEntry) :
    row entry = rowStart entry ++ literal entry.rule ++ rowEnd entry := by
  unfold row rowStart rowEnd
  -- The characters of the margin do not matter.
  generalize "    \x7b".toList = margin
  simp only [List.append_assoc]

theorem render_eq (specification : Specification) :
    render specification =
      written (above specification) ++ written (specification.states.map row) ++
        written closing := by
  rw [← written_append, ← written_append]
  rfl

end Specification.Header

namespace Engine

open Specification

variable {engine : Engine}

theorem exportAs_header (live : engine.initialized = true)
    (consistent : engine.registry.Consistent) :
    engine.exportAs (.text "header".toList) =
      if engine.WeightsFit then .ok (Header.render engine.described) else .error .overflow := by
  have named : Format.ofDatum (.text "header".toList) = .ok .header := by rfl
  rw [exportAs_of_initialized live consistent, named]
  rfl

theorem eq_render_of_exportAs (consistent : engine.registry.Consistent) {text : Text}
    (exported : engine.exportAs (.text "header".toList) = .ok text) :
    text = Header.render engine.described := by
  rw [exportAs_header (initialized_of_exportAs exported) consistent] at exported
  split at exported
  · exact (Except.ok.inj exported).symm
  · contradiction

theorem start_empty (engine : Engine) (zeroTrust : Bool) :
    (engine.start zeroTrust).2.initialized = false →
      (engine.start zeroTrust).2.registry.states = [] := by
  rw [start_eq]
  split
  · intro idle
    contradiction
  · intro _
    rfl

theorem Step.empty {event : Event} {after : Engine} (step : Step engine event after)
    (empty : engine.initialized = false → engine.registry.states = []) :
    after.initialized = false → after.registry.states = [] := by
  have refused (live : engine.initialized = true) {goal : Prop} :
      engine.initialized = false → goal := by
    intro idle
    rw [live] at idle
    contradiction
  cases step with
  | started outcome | startRefused outcome =>
      have same := congrArg Prod.snd outcome
      dsimp only at same
      rw [← same]
      exact engine.start_empty _
  | stopped =>
      intro _
      rfl
  | registered live => exact refused live
  | declared live => exact refused live
  | scanned live => exact empty

end Engine

theorem Session.Reachable.initialized_of_mem {config : Config} {session : Session}
    (reachable : Reachable config session) {state : State}
    (listed : state ∈ session.engine.registry.states) : session.engine.initialized = true := by
  have empty := reachable.invariant
    (fun engine => engine.initialized = false → engine.registry.states = [])
    (fun _ => rfl) (fun _ _ _ kept => kept) fun _ _ _ step kept =>
      step.empty kept
  cases live : session.engine.initialized with
  | true => rfl
  | false =>
      rw [empty live] at listed
      contradiction

end ProtocolGate
