import ProtocolGate.Datum

/-!
The configuration of an engine. A configuration is read from named settings, and every value of the
type is a valid one: the limits leave room, and the thresholds are in order.
-/

namespace ProtocolGate

structure Config where
  maxStates : Nat := 256
  maxTransitions : Nat := 1024
  maxPatternLength : Nat := 512
  canonicalBufferSize : Nat := 8192
  caseFold : Bool := true
  whitespaceCollapse : Bool := true
  encodingNormalize : Bool := true
  rejectTruncated : Bool := false
  preferRe2 : Bool := true
  autonomousThreshold : Float := 0.5
  warningThreshold : Float := 0.6
  one_le_maxStates : 1 ≤ maxStates := by decide
  one_le_maxPatternLength : 1 ≤ maxPatternLength := by decide
  two_le_canonicalBufferSize : 2 ≤ canonicalBufferSize := by decide
  zero_le_autonomousThreshold : 0 ≤ autonomousThreshold := by decide
  zero_le_warningThreshold : 0 ≤ warningThreshold := by decide
  thresholds_ordered : ¬ warningThreshold < autonomousThreshold := by decide

inductive SettingProblem where
  | notInteger
  | notBoolean
  | notNumber
  | belowMinimum (minimum : Nat)
  | thresholdsReversed
deriving DecidableEq

namespace SettingProblem

def code : SettingProblem → String
  | notInteger => "int_type"
  | notBoolean => "bool_type"
  | notNumber => "float_type"
  | belowMinimum _ => "greater_than_equal"
  | thresholdsReversed => "value_error"

def message : SettingProblem → String
  | notInteger => "Input should be a valid integer"
  | notBoolean => "Input should be a valid boolean"
  | notNumber => "Input should be a valid number"
  | belowMinimum minimum =>
    "Input should be greater than or equal to " ++ String.ofList (numeral minimum)
  | thresholdsReversed => "Value error, warning_threshold must not be below autonomous_threshold"

end SettingProblem

structure SettingFault where
  setting : Option String
  problem : SettingProblem

namespace Config

abbrev Settings := List (Text × Datum)

def readCount (settings : Settings) (name : String) (minimum standard : Nat) :
    Except SettingFault Nat :=
  match settings.lookup name.toList with
  | none => .ok standard
  | some (.int value) =>
    if value < minimum then .error { setting := some name, problem := .belowMinimum minimum }
    else .ok value.toNat
  | some _ => .error { setting := some name, problem := .notInteger }

def readSwitch (settings : Settings) (name : String) (standard : Bool) :
    Except SettingFault Bool :=
  match settings.lookup name.toList with
  | none => .ok standard
  | some (.truth value) => .ok value
  | some _ => .error { setting := some name, problem := .notBoolean }

def readCost (settings : Settings) (name : String) (standard : Float) :
    Except SettingFault Float :=
  let check := fun (value : Float) =>
    if 0 ≤ value then Except.ok value
    else .error { setting := some name, problem := .belowMinimum 0 }
  match settings.lookup name.toList with
  | none => .ok standard
  | some (.int value) =>
    match Decimal.ofInt? value with
    | some number => check number
    | none => .error { setting := some name, problem := .notNumber }
  | some (.float value) => check value
  | some _ => .error { setting := some name, problem := .notNumber }

def faultOf (result : Except SettingFault α) : List SettingFault :=
  match result with
  | .ok _ => []
  | .error fault => [fault]

/-- Reads a configuration from settings; unknown names are ignored. Every setting with a problem is
reported, in a fixed order, and the thresholds are compared only when there is none. -/
def read (settings : Settings) : Except (List SettingFault) Config :=
  let maxStates := readCount settings "max_states" 1 256
  let maxTransitions := readCount settings "max_transitions" 0 1024
  let maxPatternLength := readCount settings "max_pattern_length" 1 512
  let canonicalBufferSize := readCount settings "canonical_buffer_size" 2 8192
  let caseFold := readSwitch settings "case_fold" true
  let whitespaceCollapse := readSwitch settings "whitespace_collapse" true
  let encodingNormalize := readSwitch settings "encoding_normalize" true
  let rejectTruncated := readSwitch settings "reject_truncated" false
  let preferRe2 := readSwitch settings "prefer_re2" true
  let autonomousThreshold := readCost settings "autonomous_threshold" 0.5
  let warningThreshold := readCost settings "warning_threshold" 0.6
  let faults :=
    faultOf maxStates ++ faultOf maxTransitions ++ faultOf maxPatternLength ++
      faultOf canonicalBufferSize ++ faultOf caseFold ++ faultOf whitespaceCollapse ++
      faultOf encodingNormalize ++ faultOf rejectTruncated ++ faultOf preferRe2 ++
      faultOf autonomousThreshold ++ faultOf warningThreshold
  match maxStates, maxTransitions, maxPatternLength, canonicalBufferSize, caseFold,
    whitespaceCollapse, encodingNormalize, rejectTruncated, preferRe2, autonomousThreshold,
    warningThreshold with
  | .ok maxStates, .ok maxTransitions, .ok maxPatternLength, .ok canonicalBufferSize,
    .ok caseFold, .ok whitespaceCollapse, .ok encodingNormalize, .ok rejectTruncated,
    .ok preferRe2, .ok autonomousThreshold, .ok warningThreshold =>
    if limits : 1 ≤ maxStates ∧ 1 ≤ maxPatternLength ∧ 2 ≤ canonicalBufferSize ∧
        0 ≤ autonomousThreshold ∧ 0 ≤ warningThreshold then
      if ordered : ¬ warningThreshold < autonomousThreshold then
        .ok
          { maxStates, maxTransitions, maxPatternLength, canonicalBufferSize, caseFold
            whitespaceCollapse, encodingNormalize, rejectTruncated, preferRe2
            autonomousThreshold, warningThreshold
            one_le_maxStates := limits.1
            one_le_maxPatternLength := limits.2.1
            two_le_canonicalBufferSize := limits.2.2.1
            zero_le_autonomousThreshold := limits.2.2.2.1
            zero_le_warningThreshold := limits.2.2.2.2
            thresholds_ordered := ordered }
      else
        .error [{ setting := none, problem := .thresholdsReversed }]
    else
      .error faults
  | _, _, _, _, _, _, _, _, _, _, _ => .error faults

def settings (config : Config) : Settings :=
  [("max_states".toList, .int config.maxStates),
    ("max_transitions".toList, .int config.maxTransitions),
    ("max_pattern_length".toList, .int config.maxPatternLength),
    ("canonical_buffer_size".toList, .int config.canonicalBufferSize),
    ("case_fold".toList, .truth config.caseFold),
    ("whitespace_collapse".toList, .truth config.whitespaceCollapse),
    ("encoding_normalize".toList, .truth config.encodingNormalize),
    ("reject_truncated".toList, .truth config.rejectTruncated),
    ("prefer_re2".toList, .truth config.preferRe2),
    ("autonomous_threshold".toList, .float config.autonomousThreshold),
    ("warning_threshold".toList, .float config.warningThreshold)]

end Config

end ProtocolGate
