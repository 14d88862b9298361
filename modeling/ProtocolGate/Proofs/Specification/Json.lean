import ProtocolGate.Proofs.Document.Schema
import ProtocolGate.Proofs.Engine.Accounting
import ProtocolGate.Proofs.Engine.Gate
import ProtocolGate.Proofs.Specification.Header

/-!
The specification of an engine as JSON. The text can be read again, and it says of every number what
the number is, unless the number is infinite or undefined. Then it says nothing, and the schema of
specifications refuses the text.
-/

namespace ProtocolGate

def RecordType.all : List RecordType :=
  [protocolMessage, securityContext, payloadBlock, schemaValidation, auditRecord, errorCondition]

def Governance.Zone.all : List Zone :=
  [autonomous, warning, governance]

namespace Specification

open Document Schema

def transitionSchema : Check :=
  object
    [{ name := "to_state", check := int }, { name := "input_symbol", check := text },
      { name := "cost_weight", check := float }]

def stateSchema : Check :=
  object
    [{ name := "id", check := int },
      { name := "pattern_type", check := oneOf (PatternType.all.map PatternType.name) },
      { name := "regex", check := text }, { name := "is_initial", check := truth },
      { name := "is_accepting", check := truth },
      { name := "zero_trust_validation", check := truth },
      { name := "has_validator", check := truth, standard := some (.truth false) },
      { name := "transitions", check := list transitionSchema, standard := some (.list []) }]

def rewriteSchema : Check :=
  object
    [{ name := "encoded", check := text }, { name := "canonical", check := text },
      { name := "security_risk", check := text },
      { name := "shadowed", check := truth, standard := some (.truth false) }]

def recordTypeSchema : Check :=
  object
    [{ name := "state_pattern", check := oneOf (PatternType.all.map PatternType.name) },
      { name := "ir_node_type", check := oneOf (RecordType.all.map RecordType.name) }]

def limitsSchema : Check :=
  object
    [{ name := "max_states", check := int }, { name := "max_transitions", check := int },
      { name := "max_pattern_length", check := int },
      { name := "canonical_buffer_size", check := int }]

def governanceSchema : Check :=
  object
    [{ name := "cost_threshold", check := float }, { name := "warning_threshold", check := float },
      { name := "current_cost", check := float },
      { name := "zone", check := oneOf (Governance.Zone.all.map Governance.Zone.name) }]

/-- The schema of specifications. -/
def schema : Check :=
  object
    [{ name := "protocol_version", check := text, standard := some (.word protocolVersion) },
      { name := "schema_version", check := text, standard := some (.word schemaVersion) },
      { name := "zero_trust_enforced", check := truth },
      { name := "uscn_normalization_enabled", check := truth },
      { name := "case_fold", check := truth }, { name := "whitespace_collapse", check := truth },
      { name := "limits", check := limitsSchema },
      { name := "governance", check := governanceSchema },
      { name := "uscn_mappings", check := list rewriteSchema },
      { name := "states", check := list stateSchema },
      { name := "ir_generation", check := list recordTypeSchema }]

def validate? (given : Text) : Option Document :=
  (Json.read? given).bind schema

theorem TransitionEntry.accepts (entry : TransitionEntry) :
    Accepts transitionSchema entry.toDocument :=
  accepts_object (by decide)
    (.cons ⟨rfl, accepts_int _⟩ (.cons ⟨rfl, accepts_text _⟩ (.cons ⟨rfl, accepts_float _⟩ .nil)))

theorem accepts_patternType (patternType : PatternType) :
    Accepts (oneOf (PatternType.all.map PatternType.name)) (.word patternType.name) := by
  have listed : patternType ∈ PatternType.all := by cases patternType <;> decide
  exact accepts_word (List.mem_map_of_mem listed)

theorem accepts_recordType (recordType : RecordType) :
    Accepts (oneOf (RecordType.all.map RecordType.name)) (.word recordType.name) := by
  have listed : recordType ∈ RecordType.all := by cases recordType <;> decide
  exact accepts_word (List.mem_map_of_mem listed)

theorem accepts_zone (zone : Governance.Zone) :
    Accepts (oneOf (Governance.Zone.all.map Governance.Zone.name)) (.word zone.name) := by
  have listed : zone ∈ Governance.Zone.all := by cases zone <;> decide
  exact accepts_word (List.mem_map_of_mem listed)

theorem StateEntry.accepts (entry : StateEntry) : Accepts stateSchema entry.toDocument := by
  refine accepts_object (by decide) ?_
  refine .cons ⟨rfl, accepts_int _⟩ (.cons ⟨rfl, accepts_patternType _⟩ ?_)
  refine .cons ⟨rfl, accepts_text _⟩ (.cons ⟨rfl, accepts_truth _⟩ ?_)
  refine .cons ⟨rfl, accepts_truth _⟩ (.cons ⟨rfl, accepts_truth _⟩ ?_)
  refine .cons ⟨rfl, accepts_truth _⟩ (.cons ⟨rfl, ?_⟩ .nil)
  exact accepts_list TransitionEntry.accepts _

theorem RewriteEntry.accepts (entry : RewriteEntry) : Accepts rewriteSchema entry.toDocument := by
  refine accepts_object (by decide) ?_
  refine .cons ⟨rfl, accepts_text _⟩ (.cons ⟨rfl, accepts_text _⟩ ?_)
  exact .cons ⟨rfl, accepts_text _⟩ (.cons ⟨rfl, accepts_truth _⟩ .nil)

theorem recordTypeEntry_accepts (patternType : PatternType) :
    Accepts recordTypeSchema (recordTypeEntry patternType) :=
  accepts_object (by decide)
    (.cons ⟨rfl, accepts_patternType _⟩ (.cons ⟨rfl, accepts_recordType _⟩ .nil))

variable (specification : Specification)

theorem limitsEntry_accepts : Accepts limitsSchema specification.limitsEntry := by
  refine accepts_object (by decide) ?_
  refine .cons ⟨rfl, accepts_int _⟩ (.cons ⟨rfl, accepts_int _⟩ ?_)
  exact .cons ⟨rfl, accepts_int _⟩ (.cons ⟨rfl, accepts_int _⟩ .nil)

theorem governanceEntry_accepts : Accepts governanceSchema specification.governanceEntry := by
  refine accepts_object (by decide) ?_
  refine .cons ⟨rfl, accepts_float _⟩ (.cons ⟨rfl, accepts_float _⟩ ?_)
  exact .cons ⟨rfl, accepts_float _⟩ (.cons ⟨rfl, accepts_zone _⟩ .nil)

theorem toDocument_accepts : Accepts schema specification.toDocument := by
  refine accepts_object (by decide) ?_
  refine .cons ⟨rfl, accepts_text _⟩ (.cons ⟨rfl, accepts_text _⟩ ?_)
  refine .cons ⟨rfl, accepts_truth _⟩ (.cons ⟨rfl, accepts_truth _⟩ ?_)
  refine .cons ⟨rfl, accepts_truth _⟩ (.cons ⟨rfl, accepts_truth _⟩ ?_)
  refine .cons ⟨rfl, specification.limitsEntry_accepts⟩ ?_
  refine .cons ⟨rfl, specification.governanceEntry_accepts⟩ ?_
  refine .cons ⟨rfl, accepts_list RewriteEntry.accepts _⟩ ?_
  refine .cons ⟨rfl, accepts_list StateEntry.accepts _⟩ ?_
  exact .cons ⟨rfl, accepts_list recordTypeEntry_accepts _⟩ .nil

def numbers : List Float :=
  [specification.autonomousThreshold, specification.warningThreshold, specification.cost] ++
    specification.states.flatMap fun entry => entry.transitions.map TransitionEntry.weight

theorem StateEntry.isFinite_toDocument (entry : StateEntry) :
    entry.toDocument.isFinite =
      entry.transitions.all fun transition => transition.weight.isFinite := by
  have each (transition : TransitionEntry) :
      transition.toDocument.isFinite = transition.weight.isFinite := by
    simp [TransitionEntry.toDocument, field, Document.isFinite, fieldsFinite]
  simp [toDocument, field, word, Document.isFinite, fieldsFinite, itemsFinite_map, each]

theorem isFinite_toDocument :
    specification.toDocument.isFinite = specification.numbers.all Float.isFinite := by
  have rewrites : itemsFinite (specification.rewrites.map RewriteEntry.toDocument) = true := by
    rw [itemsFinite_map]
    refine List.all_eq_true.mpr fun entry _ => ?_
    simp [RewriteEntry.toDocument, field, Document.isFinite, fieldsFinite]
  have recordTypes : itemsFinite (PatternType.all.map recordTypeEntry) = true := by
    rw [itemsFinite_map]
    refine List.all_eq_true.mpr fun patternType _ => ?_
    simp [recordTypeEntry, field, word, Document.isFinite, fieldsFinite]
  have states : itemsFinite (specification.states.map StateEntry.toDocument) =
      specification.states.all fun entry =>
        entry.transitions.all fun transition => transition.weight.isFinite := by
    simp only [itemsFinite_map, StateEntry.isFinite_toDocument]
  have governance : specification.governanceEntry.isFinite =
      (specification.autonomousThreshold.isFinite && (specification.warningThreshold.isFinite &&
        specification.cost.isFinite)) := by
    simp [governanceEntry, field, word, Document.isFinite, fieldsFinite]
  simp [toDocument, limitsEntry, numbers, field, word, Document.isFinite, fieldsFinite, rewrites,
    recordTypes, states, governance, Function.comp_def, Bool.and_assoc]

theorem TransitionEntry.toDocument_injective :
    Function.Injective TransitionEntry.toDocument := by
  rintro ⟨target, symbol, weight⟩ ⟨otherTarget, otherSymbol, otherWeight⟩ same
  simp only [toDocument, field, Document.object.injEq, List.cons.injEq, Prod.mk.injEq,
    Document.int.injEq, Document.text.injEq, Document.float.injEq, true_and, and_true] at same
  obtain ⟨rfl, rfl, rfl⟩ := same
  rfl

theorem StateEntry.toDocument_injective : Function.Injective StateEntry.toDocument := by
  have transitions := List.map_injective_iff.mpr TransitionEntry.toDocument_injective
  rintro ⟨⟩ ⟨⟩ same
  simp only [toDocument, field, word, Document.object.injEq, List.cons.injEq, Prod.mk.injEq,
    Document.int.injEq, Document.text.injEq, Document.truth.injEq, Document.list.injEq, true_and,
    and_true, Header.patternType_name_injective.eq_iff, transitions.eq_iff] at same
  obtain ⟨rfl, rfl, rfl, rfl, rfl, rfl, rfl, rfl⟩ := same
  rfl

theorem RewriteEntry.toDocument_injective : Function.Injective RewriteEntry.toDocument := by
  rintro ⟨⟨encoded, canonical, risk⟩, shadowed⟩ ⟨⟨_, _, _⟩, _⟩ same
  simp only [toDocument, field, Document.object.injEq, List.cons.injEq, Prod.mk.injEq,
    Document.text.injEq, Document.truth.injEq, true_and, and_true] at same
  obtain ⟨rfl, rfl, rfl, rfl⟩ := same
  rfl

theorem zone_name_injective :
    Function.Injective fun zone : Governance.Zone => zone.name.toList := by
  intro left right same
  cases left <;> cases right <;> first | rfl | exact absurd same (by decide)

theorem limitsEntry_inj {left right : Specification} (same : left.limitsEntry = right.limitsEntry) :
    left.limits = right.limits ∧ left.bufferSize = right.bufferSize := by
  simp only [limitsEntry, field, Document.object.injEq, List.cons.injEq, Prod.mk.injEq,
    Document.int.injEq, Int.natCast_inj, true_and, and_true] at same
  obtain ⟨states, transitions, ruleLength, bufferSize⟩ := same
  have limits : left.limits = right.limits := by
    change Limits.mk _ _ _ = Limits.mk _ _ _
    rw [states, transitions, ruleLength]
  exact ⟨limits, bufferSize⟩

theorem governanceEntry_inj {left right : Specification}
    (same : left.governanceEntry = right.governanceEntry) :
    left.autonomousThreshold = right.autonomousThreshold ∧
      left.warningThreshold = right.warningThreshold ∧ left.cost = right.cost ∧
      left.zone = right.zone := by
  simpa only [governanceEntry, field, word, Document.object.injEq, List.cons.injEq, Prod.mk.injEq,
    Document.float.injEq, Document.text.injEq, zone_name_injective.eq_iff, true_and, and_true]
    using same

theorem toDocument_injective : Function.Injective toDocument := by
  have rewrites := List.map_injective_iff.mpr RewriteEntry.toDocument_injective
  have states := List.map_injective_iff.mpr StateEntry.toDocument_injective
  intro left right same
  simp only [toDocument, field, Document.object.injEq, List.cons.injEq, Prod.mk.injEq,
    Document.truth.injEq, Document.list.injEq, true_and, and_true, rewrites.eq_iff,
    states.eq_iff] at same
  obtain ⟨zeroTrust, normalize, caseFold, collapse, limits, governance, rewrites, states⟩ := same
  obtain ⟨limits, bufferSize⟩ := limitsEntry_inj limits
  obtain ⟨autonomous, warning, cost, zone⟩ := governanceEntry_inj governance
  change Specification.mk _ _ _ _ _ _ _ _ _ _ _ _ = Specification.mk _ _ _ _ _ _ _ _ _ _ _ _
  rw [zeroTrust, normalize, caseFold, collapse, limits, bufferSize, autonomous, warning, cost, zone,
    rewrites, states]

end Specification

def Amount.isFinite : Amount → Bool
  | whole _ => true
  | float value => value.isFinite

theorem Decimal.isFinite_of_ofInt? {value : Int} {number : Float}
    (shown : ofInt? value = some number) : number.isFinite = true := by
  unfold ofInt? at shown
  split at shown
  · rename_i finite
    rwa [← Option.some.inj shown]
  · contradiction

theorem Amount.isFinite_toFloat? {amount : Amount} {number : Float}
    (shown : amount.toFloat? = some number) : number.isFinite = amount.isFinite := by
  cases amount with
  | whole value => exact Decimal.isFinite_of_ofInt? shown
  | float value => rw [← Option.some.inj shown, isFinite]

theorem Specification.TransitionEntry.isFinite_weight {transition : Transition}
    (fits : transition.weight.fits = true) :
    (ofTransition transition).weight.isFinite = transition.weight.isFinite := by
  rw [← Amount.isSome_toFloat?] at fits
  obtain ⟨number, shown⟩ := Option.isSome_iff_exists.mp fits
  rw [ofTransition, shown, Option.getD_some, Amount.isFinite_toFloat? shown]

namespace Engine

variable {engine : Engine}

/-- All numbers in the specification of an engine are finite. -/
structure Expressible (engine : Engine) : Prop where
  autonomousThreshold : engine.config.autonomousThreshold.isFinite = true
  warningThreshold : engine.config.warningThreshold.isFinite = true
  cost : ∀ cost, engine.cost = .ok cost → cost.isFinite = true
  weights : ∀ transition ∈ engine.registry.transitions, transition.weight.isFinite = true

theorem listed_weights_perm (consistent : engine.registry.Consistent) :
    (engine.described.states.flatMap fun entry =>
        entry.transitions.map Specification.TransitionEntry.weight).Perm
      (engine.registry.transitions.map fun transition =>
        (Specification.TransitionEntry.ofTransition transition).weight) := by
  have grouped := consistent.transitionsFrom_perm.map fun transition =>
    (Specification.TransitionEntry.ofTransition transition).weight
  rw [List.map_flatMap] at grouped
  rw [described, List.flatMap_map]
  simpa only [Specification.StateEntry.ofState, List.map_map, Function.comp_def] using grouped

theorem numbers_isFinite (live : engine.initialized = true)
    (consistent : engine.registry.Consistent) (fits : engine.WeightsFit) :
    engine.described.numbers.all Float.isFinite = true ↔ engine.Expressible := by
  have weights : (∀ weight ∈ engine.described.states.flatMap fun entry =>
        entry.transitions.map Specification.TransitionEntry.weight, weight.isFinite = true) ↔
      ∀ transition ∈ engine.registry.transitions, transition.weight.isFinite = true := by
    simp only [(listed_weights_perm consistent).mem_iff, List.forall_mem_map]
    refine forall₂_congr fun transition declared => ?_
    rw [Specification.TransitionEntry.isFinite_weight (fits transition declared)]
  have priced := cost_of_initialized live
  rw [List.all_eq_true, Specification.numbers, List.forall_mem_append, weights]
  constructor
  · rintro ⟨figures, declared⟩
    refine ⟨figures _ (by simp [described]), figures _ (by simp [described]), ?_, declared⟩
    intro cost same
    obtain rfl := Except.ok.inj (priced.symm.trans same)
    exact figures _ (by simp)
  · intro expressible
    refine ⟨?_, expressible.weights⟩
    simp only [List.forall_mem_cons]
    exact ⟨expressible.autonomousThreshold, expressible.warningThreshold,
      expressible.cost _ priced, fun _ none => nomatch none⟩

theorem exportAs_eq_json (live : engine.initialized = true)
    (consistent : engine.registry.Consistent) (fits : engine.WeightsFit) :
    engine.exportAs (.text "json".toList) =
      .ok (Document.Json.render engine.described.toDocument) := by
  have named : Specification.Format.ofDatum (.text "json".toList) = .ok .json := by rfl
  rw [exportAs_of_initialized live consistent, if_pos fits, named]
  rfl

end Engine

namespace Session

open Engine

/-- The JSON of an engine in use. Its text is read as the document of the specification, with `null`
in the place of every number that is not finite. The schema takes the text for that document, which
is the document of no other specification, exactly if both thresholds, the cost and all weights are
finite, and otherwise it refuses the text. A configuration may have an infinite threshold, and a
weight may be infinite or undefined; only the cost is always finite, as long as no scan costs more
than `2 ^ 854`. Whole weights are such that floating-point numbers can stand for them. -/
theorem exportAs_json (config : Config) (operations : List Operation) :
    let engine := ((new config).run operations).engine
    engine.initialized = true →
    (∀ transition ∈ engine.registry.transitions, transition.weight.fits = true) →
    (∃ specification text, engine.specification = .ok specification ∧
      engine.exportAs (.text "json".toList) = .ok text ∧
      Document.Json.read? text = some specification.toDocument.jsonValue ∧
      (engine.Expressible →
        Specification.validate? text = some specification.toDocument ∧
        ∀ other : Specification, other.toDocument = specification.toDocument →
          other = specification) ∧
      (¬ engine.Expressible → Specification.validate? text = none)) ∧
    ((∀ outcome ∈ completedScans ((new config).history operations),
        Decimal.AtMost 854 outcome.cost) →
      engine.registry.states.length ≤ 2 ^ 800 → engine.registry.transitions.length ≤ 2 ^ 800 →
      ∀ cost, engine.cost = .ok cost → cost.isFinite = true) := by
  intro engine live (fits : engine.WeightsFit)
  have consistent := (reachable_run config operations).consistent
  have finite := numbers_isFinite live consistent fits
  have read := Document.Json.read?_render engine.described.toDocument
  have taken := engine.described.toDocument_accepts
  rw [Document.Schema.Accepts, Specification.isFinite_toDocument] at taken
  have checked : Specification.validate? (Document.Json.render engine.described.toDocument) =
      if engine.described.numbers.all Float.isFinite then some engine.described.toDocument
      else none := by
    rw [Specification.validate?, read, Option.bind_some, taken]
  constructor
  · have specified := specification_of_initialized live consistent
    rw [if_pos fits] at specified
    refine ⟨_, _, specified, exportAs_eq_json live consistent fits, read, ?_, ?_⟩
    · intro expressible
      rw [checked, if_pos (finite.mpr expressible)]
      exact ⟨rfl, fun other same => Specification.toDocument_injective same⟩
    · intro inexpressible
      rw [checked, if_neg fun all => inexpressible (finite.mp all)]
  · intro small fewStates fewTransitions cost same
    have books := (run_booked operations live).books live
    have accumulated : engine.accumulated = _ := congrArg Books.accumulated books
    obtain rfl := Except.ok.inj (same.symm.trans (cost_of_initialized live))
    refine (Governance.cost_atMost ?_ fewStates fewTransitions engine.zeroTrust).isFinite
    rw [accumulated]
    exact Books.accumulated_atMost small

def weighted (weight : Float) : List Operation :=
  [.start true, .addTransition 0 0 (.text ['x']) (.float weight) none]

theorem exportAs_json_infinite :
    (∃ text, ((new {}).run (weighted 0.25)).engine.exportAs (.text "json".toList) = .ok text ∧
      (Specification.validate? text).isSome = true) ∧
    ∃ text, ((new {}).run (weighted (1 / 0))).engine.exportAs (.text "json".toList) = .ok text ∧
      Specification.validate? text = none := by
  obtain ⟨⟨specification, text, _, exported, _, accepted, _⟩, cheap⟩ :=
    exportAs_json {} (weighted 0.25) (by decide +kernel) (by decide +kernel)
  obtain ⟨⟨_, other, _, otherExported, _, _, refused⟩, _⟩ :=
    exportAs_json {} (weighted (1 / 0)) (by decide +kernel) (by decide +kernel)
  have unscanned : completedScans ((new {}).history (weighted 0.25)) = [] :=
    List.eq_nil_of_length_eq_zero (by decide +kernel)
  have expressible : ((new {}).run (weighted 0.25)).engine.Expressible := by
    refine ⟨by decide +kernel, by decide +kernel, ?_, by decide +kernel⟩
    refine cheap ?_ (by decide +kernel) (by decide +kernel)
    rw [unscanned]
    exact fun _ none => nomatch none
  have inexpressible : ¬ ((new {}).run (weighted (1 / 0))).engine.Expressible := by
    intro expressible
    have weights := expressible.weights
    revert weights
    decide +kernel
  refine ⟨⟨text, exported, ?_⟩, other, otherExported, refused inexpressible⟩
  rw [(accepted expressible).1]
  rfl

end Session

end ProtocolGate
