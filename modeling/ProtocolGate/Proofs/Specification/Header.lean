import ProtocolGate.Proofs.Specification.Export

/-!
What a header tells. Every value in a header shows where it ends, whatever the rules have in them,
so a header is read from the left in one way only, and headers are the same text exactly if they
tell the same.
-/

namespace ProtocolGate

namespace Specification.Header

structure Row where
  id : Int
  patternType : PatternType
  rule : Text
  isAccepting : Bool
  requiresZeroTrust : Bool
deriving DecidableEq

def Row.ofState (state : State) : Row where
  id := state.id
  patternType := state.patternType
  rule := state.rule
  isAccepting := state.accepting
  requiresZeroTrust := state.requiresZeroTrust

def Row.ofEntry (entry : StateEntry) : Row where
  id := entry.id
  patternType := entry.patternType
  rule := entry.rule
  isAccepting := entry.isAccepting
  requiresZeroTrust := entry.requiresZeroTrust

def Row.toEntry (row : Row) : StateEntry where
  id := row.id
  patternType := row.patternType
  rule := row.rule
  isInitial := false
  isAccepting := row.isAccepting
  requiresZeroTrust := row.requiresZeroTrust
  hasValidator := false
  transitions := []

/-- All that a header tells. -/
structure Contents where
  limits : Limits
  bufferSize : Nat
  zeroTrust : Bool
  rows : List Row

def Contents.ofSpecification (specification : Specification) : Contents where
  limits := specification.limits
  bufferSize := specification.bufferSize
  zeroTrust := specification.zeroTrust
  rows := specification.states.map Row.ofEntry

section Cuts

variable {x y : Text}

theorem cut_unique {stop : Char} {left right : Text} (leftFree : stop ∉ left)
    (rightFree : stop ∉ right) (same : left ++ stop :: x = right ++ stop :: y) :
    left = right ∧ x = y := by
  induction left generalizing right with
  | nil =>
      cases right with
      | nil => exact ⟨rfl, (List.cons.inj same).2⟩
      | cons c right =>
          have first : stop = c := (List.cons.inj same).1
          rw [first] at rightFree
          exact absurd List.mem_cons_self rightFree
  | cons c left ih =>
      cases right with
      | nil =>
          have first : c = stop := (List.cons.inj same).1
          rw [first] at leftFree
          exact absurd List.mem_cons_self leftFree
      | cons d right =>
          obtain ⟨rfl, later⟩ := List.cons.inj same
          rw [List.mem_cons, not_or] at leftFree rightFree
          obtain ⟨rfl, rest⟩ := ih leftFree.2 rightFree.2 later
          exact ⟨rfl, rest⟩

theorem isDigit_of_mem_numeral {n : Nat} {c : Char} (member : c ∈ numeral n) : c.isDigit = true :=
  Nat.isDigit_of_mem_toDigits (by decide) (by decide) member

theorem numeral_injective : Function.Injective numeral := by
  intro m n same
  have value := congrArg (fun digits => Nat.ofDigitChars 10 digits 0) same
  simpa only [numeral, Nat.ofDigitChars_ten_toDigits] using value

theorem mem_signedNumeral {n : Int} {c : Char} (member : c ∈ signedNumeral n) :
    c = '-' ∨ c.isDigit = true := by
  unfold signedNumeral at member
  split at member
  · exact (List.mem_cons.1 member).imp_right isDigit_of_mem_numeral
  · exact .inr (isDigit_of_mem_numeral member)

theorem signedNumeral_injective : Function.Injective signedNumeral := by
  have unsigned {m : Nat} {digits : Text} (same : numeral m = '-' :: digits) : False := by
    have sign : '-' ∈ numeral m := by
      rw [same]
      exact List.mem_cons_self
    have digit := isDigit_of_mem_numeral sign
    contradiction
  intro m n same
  unfold signedNumeral at same
  split at same <;> split at same
  · have value := numeral_injective (List.cons.inj same).2
    omega
  · exact (unsigned same.symm).elim
  · exact (unsigned same).elim
  · have value := numeral_injective same
    omega

theorem signedNumeral_cut {m n : Int} {stop : Char} (foreign : stop ≠ '-' ∧ stop.isDigit = false)
    (same : signedNumeral m ++ stop :: x = signedNumeral n ++ stop :: y) : m = n ∧ x = y := by
  have free (k : Int) : stop ∉ signedNumeral k := by
    intro member
    rcases mem_signedNumeral member with sign | digit
    · exact foreign.1 sign
    · rw [foreign.2] at digit
      contradiction
  obtain ⟨numerals, rest⟩ := cut_unique (free m) (free n) same
  exact ⟨signedNumeral_injective numerals, rest⟩

theorem switch_cut {left right : Bool} (same : switch left ++ x = switch right ++ y) :
    left = right ∧ x = y := by
  cases left <;> cases right <;> simp_all [switch]

theorem escape_cut {c d : Char} (same : escape c ++ x = escape d ++ y) : c = d ∧ x = y := by
  simp only [escape_eq] at same
  split at same <;> split at same
  · simpa using same
  · rename_i _ ordinary
    have first : '\\' = d := (List.cons.inj same).1
    exact absurd (.inl first.symm) ordinary
  · rename_i ordinary _
    have first : c = '\\' := (List.cons.inj same).1
    exact absurd (.inl first) ordinary
  · simpa using same

theorem escape_ne_quote {c : Char} : escape c ++ x ≠ '"' :: y := by
  intro same
  rw [escape_eq] at same
  split at same
  · have first : '\\' = '"' := (List.cons.inj same).1
    contradiction
  · rename_i ordinary
    have first : c = '"' := (List.cons.inj same).1
    exact ordinary (.inr first)

theorem escaped_cut {left right : Text}
    (same : left.flatMap escape ++ '"' :: x = right.flatMap escape ++ '"' :: y) :
    left = right ∧ x = y := by
  induction left generalizing right with
  | nil =>
      cases right with
      | nil => exact ⟨rfl, (List.cons.inj same).2⟩
      | cons d right =>
          rw [List.flatMap_cons, List.append_assoc] at same
          exact absurd same.symm escape_ne_quote
  | cons c left ih =>
      rw [List.flatMap_cons, List.append_assoc] at same
      cases right with
      | nil => exact absurd same escape_ne_quote
      | cons d right =>
          rw [List.flatMap_cons, List.append_assoc] at same
          obtain ⟨rfl, later⟩ := escape_cut same
          obtain ⟨rfl, rest⟩ := ih later
          exact ⟨rfl, rest⟩

/-- A literal ends at its own closing quote, whatever is in it. -/
theorem literal_cut {left right : Text} (same : literal left ++ x = literal right ++ y) :
    left = right ∧ x = y := by
  rw [literal_append, literal_append] at same
  exact escaped_cut (List.cons.inj same).2

theorem patternType_name_injective :
    Function.Injective fun patternType : PatternType => patternType.name.toList := by
  have named (patternType : PatternType) :
      PatternType.ofDatum? (.text patternType.name.toList) = some patternType := by
    cases patternType <;> rfl
  intro left right same
  have found := congrArg (fun name => PatternType.ofDatum? (.text name)) same
  simp only [named] at found
  exact Option.some.inj found

theorem comma_cut (same : ',' :: ' ' :: x = ',' :: ' ' :: y) : x = y :=
  (List.cons.inj (List.cons.inj same).2).2

theorem row_cut {left right : StateEntry} (same : row left ++ x = row right ++ y) :
    Row.ofEntry left = Row.ofEntry right ∧ x = y := by
  unfold row at same
  -- The characters of the margin do not matter.
  generalize "    \x7b".toList = margin at same
  simp only [List.append_assoc, List.cons_append, List.nil_append] at same
  obtain ⟨id, fromType⟩ := signedNumeral_cut (by decide) (List.append_cancel_left same)
  obtain ⟨name, fromRule⟩ := literal_cut (List.cons.inj fromType).2
  obtain ⟨rule, fromAccepting⟩ := literal_cut (comma_cut fromRule)
  obtain ⟨accepting, fromStamp⟩ := switch_cut (comma_cut fromAccepting)
  obtain ⟨stamp, rest⟩ := switch_cut (comma_cut fromStamp)
  have patternType := patternType_name_injective name
  constructor
  · simp only [Row.ofEntry, id, patternType, rule, accepting, stamp]
  · exact (List.cons.inj (List.cons.inj rest).2).2

theorem row_ne_closing {entry : StateEntry} :
    row entry ++ x ≠ written closing := by
  intro same
  have first : some ' ' = some '\x7d' := congrArg List.head? same
  contradiction

theorem rows_cut {left right : List StateEntry}
    (same : written (left.map row) ++ written closing =
      written (right.map row) ++ written closing) :
    left.map Row.ofEntry = right.map Row.ofEntry := by
  induction left generalizing right with
  | nil =>
      cases right with
      | nil => rfl
      | cons other right =>
          rw [List.map_cons, written_cons, List.append_assoc] at same
          exact absurd same.symm row_ne_closing
  | cons entry left ih =>
      rw [List.map_cons, written_cons, List.append_assoc] at same
      cases right with
      | nil => exact absurd same row_ne_closing
      | cons other right =>
          rw [List.map_cons, written_cons, List.append_assoc] at same
          obtain ⟨first, later⟩ := row_cut same
          rw [List.map_cons, List.map_cons, first, ih (List.cons.inj later).2]

theorem numeral_eq (n : Nat) : numeral n = signedNumeral n :=
  rfl

theorem definition_cut {name : String} {left right : Text} (same :
    definition name left ++ '\n' :: x = definition name right ++ '\n' :: y) :
    left ++ '\n' :: x = right ++ '\n' :: y := by
  unfold definition at same
  generalize "#define ".toList ++ name.toList = opened at same
  rw [List.append_assoc, List.append_assoc] at same
  exact (List.cons.inj (List.append_cancel_left same)).2

theorem constants_cut {left right : Specification}
    (same : written (constants left) ++ x = written (constants right) ++ y) :
    left.limits = right.limits ∧ left.bufferSize = right.bufferSize ∧
      left.zeroTrust = right.zeroTrust ∧ x = y := by
  have newline : '\n' ≠ '-' ∧ '\n'.isDigit = false := by decide
  simp only [constants, written_cons, numeral_eq, List.append_assoc, List.cons_append] at same
  obtain ⟨states, fromTransitions⟩ := signedNumeral_cut newline (definition_cut same)
  obtain ⟨transitions, fromLength⟩ := signedNumeral_cut newline (definition_cut fromTransitions)
  obtain ⟨ruleLength, fromSize⟩ := signedNumeral_cut newline (definition_cut fromLength)
  obtain ⟨bufferSize, fromMark⟩ := signedNumeral_cut newline (definition_cut fromSize)
  obtain ⟨zeroTrust, fromCount⟩ := switch_cut (definition_cut fromMark)
  obtain ⟨_, rest⟩ := signedNumeral_cut newline (definition_cut (List.cons.inj fromCount).2)
  have limits : left.limits = right.limits := by
    change Limits.mk _ _ _ = Limits.mk _ _ _
    rw [states, transitions, ruleLength]
  exact ⟨limits, Int.ofNat.inj bufferSize, zeroTrust, (List.cons.inj rest).2⟩

end Cuts

theorem row_toEntry (entry : StateEntry) : row (Row.ofEntry entry).toEntry = row entry :=
  rfl

theorem map_row_of_rows {left right : List StateEntry}
    (same : left.map Row.ofEntry = right.map Row.ofEntry) : left.map row = right.map row := by
  have told (entries : List StateEntry) :
      (entries.map Row.ofEntry).map (fun row => Header.row row.toEntry) = entries.map row := by
    rw [List.map_map]
    exact List.map_congr_left fun entry _ => row_toEntry entry
  rw [← told left, ← told right, same]

theorem render_eq_iff {left right : Specification} :
    render left = render right ↔
      Contents.ofSpecification left = Contents.ofSpecification right := by
  constructor
  · intro same
    simp only [render_eq, above, written_append, List.append_assoc] at same
    obtain ⟨limits, bufferSize, zeroTrust, afterConstants⟩ :=
      constants_cut (List.append_cancel_left same)
    have fromRows := List.append_cancel_left (List.append_cancel_left afterConstants)
    rw [Contents.ofSpecification, limits, bufferSize, zeroTrust, rows_cut fromRows]
    rfl
  · intro same
    obtain ⟨limits, bufferSize, zeroTrust, rows⟩ := Contents.mk.inj same
    have count : left.states.length = right.states.length := by
      simpa using congrArg List.length rows
    have constants : constants left = constants right := by
      rw [constants, limits, bufferSize, zeroTrust, count]
      rfl
    rw [render_eq, render_eq, above, constants, map_row_of_rows rows]
    rfl

end Specification.Header

namespace Engine

open Specification

theorem Configured.contents {config : Config} {engine : Engine}
    (configured : Configured config engine) :
    Header.Contents.ofSpecification engine.described =
      { limits :=
          { states := config.maxStates
            transitions := config.maxTransitions
            ruleLength := config.maxPatternLength }
        bufferSize := config.canonicalBufferSize
        zeroTrust := engine.zeroTrust
        rows := engine.registry.states.map Header.Row.ofState } := by
  have limits : engine.described.limits = _ := configured.limits
  have bufferSize : engine.described.bufferSize = config.canonicalBufferSize :=
    congrArg Canonical.Context.bufferSize configured.context
  have rows : engine.described.states.map Header.Row.ofEntry =
      engine.registry.states.map Header.Row.ofState :=
    List.map_map
  rw [Header.Contents.ofSpecification, limits, bufferSize, rows]
  rfl

end Engine

namespace Session

open Specification

/-- If two reachable engines have the same header, the four limits of their configurations are the
same, and so are their marks and their states, up to what a row tells of a state. -/
theorem exportAs_header_faithful {leftConfig rightConfig : Config} {left right : Session}
    (leftReachable : Reachable leftConfig left) (rightReachable : Reachable rightConfig right)
    {text : Text} (leftExported : left.engine.exportAs (.text "header".toList) = .ok text)
    (rightExported : right.engine.exportAs (.text "header".toList) = .ok text) :
    leftConfig.maxStates = rightConfig.maxStates ∧
    leftConfig.maxTransitions = rightConfig.maxTransitions ∧
    leftConfig.maxPatternLength = rightConfig.maxPatternLength ∧
    leftConfig.canonicalBufferSize = rightConfig.canonicalBufferSize ∧
    left.engine.zeroTrust = right.engine.zeroTrust ∧
    left.engine.registry.states.map Header.Row.ofState =
      right.engine.registry.states.map Header.Row.ofState := by
  have leftText := Engine.eq_render_of_exportAs leftReachable.consistent leftExported
  have rightText := Engine.eq_render_of_exportAs rightReachable.consistent rightExported
  have told := Header.render_eq_iff.1 (leftText.symm.trans rightText)
  rw [leftReachable.configured.contents, rightReachable.configured.contents] at told
  obtain ⟨limits, bufferSize, zeroTrust, rows⟩ := Header.Contents.mk.inj told
  obtain ⟨states, transitions, ruleLength⟩ := Limits.mk.inj limits
  exact ⟨Int.ofNat.inj states, Int.ofNat.inj transitions, Int.ofNat.inj ruleLength, bufferSize,
    zeroTrust, rows⟩

def imitation : Text :=
  "a\", 1, 1\x7d,\n    \x7b2, \"data_payload\", \"b".toList

@[irreducible]
def plainSession (config : Config) : Session :=
  (new config).run [.start true, .register (.text "data_payload".toList) (some imitation) none]

@[irreducible]
def linkedSession (config : Config) : Session :=
  (new config).run
    [.start true,
      .register (.text "data_payload".toList) (some imitation) (some fun _ => .ok false),
      .addTransition 0 1 (.text ['x']) (.float 0) none]

theorem exportAs_header_faithful_imitated :
    ∃ text,
      (plainSession {}).engine.exportAs (.text "header".toList) = .ok text ∧
      (linkedSession { caseFold := false }).engine.exportAs (.text "header".toList) = .ok text ∧
      (plainSession {}).engine.registry.transitions.length = 0 ∧
      (linkedSession { caseFold := false }).engine.registry.transitions.length = 1 ∧
      (plainSession {}).engine.registry.states.map Header.Row.ofState =
        (linkedSession { caseFold := false }).engine.registry.states.map Header.Row.ofState := by
  have plain : Reachable {} (plainSession {}) := by
    unfold plainSession
    exact reachable_run {} _
  have linked : Reachable { caseFold := false } (linkedSession { caseFold := false }) := by
    unfold linkedSession
    exact reachable_run { caseFold := false } _
  have facts :
      ((plainSession {}).engine.initialized = true ∧
        (linkedSession { caseFold := false }).engine.initialized = true) ∧
      (plainSession {}).engine.zeroTrust =
        (linkedSession { caseFold := false }).engine.zeroTrust ∧
      (plainSession {}).engine.registry.states.map Header.Row.ofState =
        (linkedSession { caseFold := false }).engine.registry.states.map Header.Row.ofState ∧
      (plainSession {}).engine.registry.transitions.length = 0 ∧
      (linkedSession { caseFold := false }).engine.registry.transitions.length = 1 := by
    decide +kernel
  obtain ⟨live, marks, rows, transitions⟩ := facts
  have fit : (plainSession {}).engine.WeightsFit ∧
      (linkedSession { caseFold := false }).engine.WeightsFit := by
    decide +kernel
  have same : Header.render (plainSession {}).engine.described =
      Header.render (linkedSession { caseFold := false }).engine.described := by
    rw [Header.render_eq_iff, plain.configured.contents, linked.configured.contents, marks, rows]
  have plainExported := Engine.exportAs_header live.1 plain.consistent
  have linkedExported := Engine.exportAs_header live.2 linked.consistent
  rw [if_pos fit.1] at plainExported
  rw [if_pos fit.2, ← same] at linkedExported
  obtain ⟨_, _, _, _, _, told⟩ := exportAs_header_faithful plain linked plainExported linkedExported
  exact ⟨_, plainExported, linkedExported, transitions.1, transitions.2, told⟩

end Session

end ProtocolGate
