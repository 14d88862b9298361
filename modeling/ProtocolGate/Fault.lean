import ProtocolGate.Datum
import ProtocolGate.Pattern.Fault

/-!
Faults: what can go wrong, the code and the wording of each kind, and the report that a caller gets.
-/

namespace ProtocolGate

inductive FaultKind where
  | general
  | input
  | capacity
  | validation
  | zeroTrust
  | engine
  | invalidInput
  | missingPatternRule
  | patternCompile
  | tableFull
  | transitionTableFull
  | validationFailed
  | zeroTrustViolation
  | engineNotInitialized
  | exportFormatNotSupported
deriving DecidableEq

namespace FaultKind

def all : List FaultKind :=
  [general, input, capacity, validation, zeroTrust, engine, invalidInput, missingPatternRule,
    patternCompile, tableFull, transitionTableFull, validationFailed, zeroTrustViolation,
    engineNotInitialized, exportFormatNotSupported]

def name : FaultKind → String
  | general => "OBIProtocolError"
  | input => "InputError"
  | capacity => "CapacityError"
  | validation => "ValidationError"
  | zeroTrust => "ZeroTrustError"
  | engine => "EngineError"
  | invalidInput => "InvalidInput"
  | missingPatternRule => "MissingPatternRule"
  | patternCompile => "PatternCompileError"
  | tableFull => "TableFull"
  | transitionTableFull => "TransitionTableFull"
  | validationFailed => "ValidationFailed"
  | zeroTrustViolation => "ZeroTrustViolation"
  | engineNotInitialized => "EngineNotInitialized"
  | exportFormatNotSupported => "ExportFormatNotSupported"

def ofName? (name : String) : Option FaultKind :=
  all.find? fun kind => kind.name == name

def category? : FaultKind → Option FaultKind
  | general | input | capacity | validation | zeroTrust | engine => none
  | invalidInput | missingPatternRule | patternCompile => some input
  | tableFull | transitionTableFull => some capacity
  | validationFailed => some validation
  | zeroTrustViolation => some zeroTrust
  | engineNotInitialized | exportFormatNotSupported => some engine

def lineage (kind : FaultKind) : List FaultKind :=
  if kind = general then [general]
  else kind :: kind.category?.toList ++ [general]

def code : FaultKind → String
  | general => "OBI-E000"
  | input => "OBI-E1XX"
  | capacity => "OBI-E2XX"
  | validation => "OBI-E3XX"
  | zeroTrust => "OBI-E4XX"
  | engine => "OBI-E5XX"
  | invalidInput => "OBI-E100"
  | missingPatternRule => "OBI-E101"
  | patternCompile => "OBI-E102"
  | tableFull => "OBI-E200"
  | transitionTableFull => "OBI-E201"
  | validationFailed => "OBI-E300"
  | zeroTrustViolation => "OBI-E400"
  | engineNotInitialized => "OBI-E500"
  | exportFormatNotSupported => "OBI-E501"

def message : FaultKind → String
  | general | input | capacity | validation | zeroTrust | engine => "Unknown OBI protocol error"
  | invalidInput => "Invalid input"
  | missingPatternRule => "Pattern registration requires a match rule"
  | patternCompile => "Pattern match rule could not be compiled"
  | tableFull => "State table is full"
  | transitionTableFull => "Transition table is full"
  | validationFailed => "Input did not reach an accepting state"
  | zeroTrustViolation => "Zero Trust violation: canonical forms differ"
  | engineNotInitialized => "Engine is not initialized"
  | exportFormatNotSupported => "Specification export format is not supported"

def resolution : FaultKind → String
  | general | input | capacity | validation | zeroTrust | engine => ""
  | invalidInput => "Pass a non-empty str or bytes value."
  | missingPatternRule => "Supply a regular-expression match rule for the pattern."
  | patternCompile =>
    "Check the rule against the engine's regex dialect and the configured maximum pattern length."
  | tableFull => "Raise EngineConfig.max_states or register fewer patterns."
  | transitionTableFull =>
    "Raise EngineConfig.max_transitions or declare fewer transitions."
  | validationFailed =>
    "Ensure the input carries a payload or audit marker recognised by a registered accepting " ++
      "pattern."
  | zeroTrustViolation =>
    "Reject the input; validation must only be performed on a complete canonical representation."
  | engineNotInitialized => "Call ProtocolDFA.initialize() before using the engine."
  | exportFormatNotSupported => "Use one of 'yaml', 'json' or 'header'."

end FaultKind

structure Report where
  kind : FaultKind
  message : Text
  resolution : Text
  details : List (Text × Datum)

namespace Report

/-- A report; what is not given comes from the kind. -/
def make (kind : FaultKind) (message resolution : Option Text) (details : List (Text × Datum)) :
    Report where
  kind := kind
  message := message.getD kind.message.toList
  resolution := resolution.getD kind.resolution.toList
  details := details

def payload (report : Report) : Datum :=
  let details :=
    if report.details.isEmpty then [] else [("detail".toList, Datum.record report.details)]
  let resolution :=
    if report.resolution.isEmpty then [] else [("resolution".toList, Datum.text report.resolution)]
  let body :=
    ("code".toList, Datum.text report.kind.code.toList) ::
      ("message".toList, Datum.text report.message) :: (details ++ resolution)
  .record [("error".toList, .record body)]

def shown (report : Report) : Text :=
  report.kind.name.toList ++ "(code=".toList ++ Text.quoted report.kind.code.toList ++
    ", message=".toList ++ Text.quoted report.message ++ [')']

end Report

inductive Fault where
  | inputMissing
  | inputKind (kind : String)
  | inputEmpty
  | boundTooSmall (bound : Int)
  | bufferTooSmall (size : Int)
  | ruleMissing (patternType : Datum)
  | ruleTooLong (limit : Int) (length : Nat)
  | ruleInvalid (rule : Text) (cause : Pattern.Fault)
  | patternTypeUnknown (patternType : Datum)
  | statesFull (limit : Int)
  | transitionsFull (limit : Int)
  | stateUnknown (id : Int)
  | symbolNotSingle (symbol : Datum)
  | weightNegative (weight : Amount)
  | increment (amount : Amount)
  | formsDiffer (firstLength secondLength : Nat)
  | formsTruncated (first second : Bool)
  | inputTruncated (length : Nat)
  | validationTruncated (length : Nat)
  | notAccepted (finalState : Int) (status : String) (records : Nat)
  | notInitialized
  | formatUnknown (format : Datum) (supported : List String)

namespace Fault

def kind : Fault → FaultKind
  | inputMissing | inputKind _ | inputEmpty | boundTooSmall _ | bufferTooSmall _
  | patternTypeUnknown _ | stateUnknown _ | symbolNotSingle _ | weightNegative _
  | increment _ => .invalidInput
  | ruleMissing _ => .missingPatternRule
  | ruleTooLong _ _ | ruleInvalid _ _ => .patternCompile
  | statesFull _ => .tableFull
  | transitionsFull _ => .transitionTableFull
  | formsDiffer _ _ | formsTruncated _ _ | inputTruncated _ | validationTruncated _ =>
    .zeroTrustViolation
  | notAccepted _ _ _ => .validationFailed
  | notInitialized => .engineNotInitialized
  | formatUnknown _ _ => .exportFormatNotSupported

def message? : Fault → Option Text
  | inputMissing => some "Input must not be None".toList
  | inputKind kind => some ("Expected str or bytes, got ".toList ++ kind.toList)
  | inputEmpty => some "Input must not be empty".toList
  | boundTooSmall _ => some "Output bound must be at least 1".toList
  | bufferTooSmall _ => some "buffer_size must leave room for at least one character".toList
  | ruleTooLong limit _ =>
    some ("Match rule exceeds ".toList ++ signedNumeral limit ++ " characters".toList)
  | ruleInvalid rule cause =>
    some ("Invalid match rule ".toList ++ Text.quoted rule ++ [':', ' '] ++
      (cause.message rule).toList)
  | patternTypeUnknown patternType =>
    some ("Unknown pattern type: ".toList ++ patternType.shown)
  | stateUnknown id => some ("Unknown state id: ".toList ++ signedNumeral id)
  | symbolNotSingle _ => some "Transition input symbol must be a single character".toList
  | weightNegative _ => some "Transition cost weight must not be negative".toList
  | increment _ => some "Governance cost increments must be finite and non-negative".toList
  | formsTruncated _ _ => some "Zero Trust violation: canonical form was truncated".toList
  | inputTruncated _ => some "Zero Trust violation: canonical input was truncated".toList
  | validationTruncated _ =>
    some "Zero Trust violation: validation on truncated canonical input".toList
  | formatUnknown format _ =>
    some ("Specification export format is not supported: ".toList ++ format.shown)
  | ruleMissing _ | statesFull _ | transitionsFull _ | formsDiffer _ _ | notAccepted _ _ _
  | notInitialized => none

def details : Fault → List (Text × Datum)
  | inputMissing | inputEmpty | notInitialized => []
  | inputKind kind => [("type".toList, .text kind.toList)]
  | boundTooSmall bound => [("bound".toList, .int bound)]
  | bufferTooSmall size => [("buffer_size".toList, .int size)]
  | ruleMissing patternType => [("pattern_type".toList, .text patternType.asText)]
  | ruleTooLong _ length => [("rule_length".toList, .int length)]
  | ruleInvalid rule _ => [("rule".toList, .text rule)]
  | patternTypeUnknown patternType => [("pattern_type".toList, .text patternType.asText)]
  | statesFull limit => [("max_states".toList, .int limit)]
  | transitionsFull limit => [("max_transitions".toList, .int limit)]
  | stateUnknown id => [("state_id".toList, .int id)]
  | symbolNotSingle symbol => [("input_symbol".toList, symbol)]
  | weightNegative weight => [("cost_weight".toList, weight.toDatum)]
  | increment amount => [("amount".toList, amount.toDatum)]
  | formsDiffer firstLength secondLength =>
    [("first_length".toList, .int firstLength), ("second_length".toList, .int secondLength)]
  | formsTruncated first second =>
    [("first_truncated".toList, .truth first), ("second_truncated".toList, .truth second)]
  | inputTruncated length | validationTruncated length =>
    [("canonical_length".toList, .int length)]
  | notAccepted finalState status records =>
    [("final_state".toList, .int finalState), ("status".toList, .text status.toList),
      ("nodes".toList, .int records)]
  | formatUnknown format supported =>
    [("format".toList, .text format.asText),
      ("supported".toList, .list (supported.map fun name => .text name.toList))]

def report (fault : Fault) : Report :=
  .make fault.kind fault.message? none fault.details

end Fault

/-- Why an operation does not return: a fault of its own, a check of the caller that raises, or a
whole number that no floating-point number stands for. -/
inductive Failure where
  | fault (fault : Fault)
  | raised (message : Text)
  | overflow

def Failure.overflowMessage : Text := "int too large to convert to float".toList

end ProtocolGate
