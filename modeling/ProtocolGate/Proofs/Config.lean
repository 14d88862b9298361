import ProtocolGate.Config

/-!
Reading a configuration. Validation accepts the settings of every configuration and reads that very
configuration from them, so the values of the type are the accepted ones.
-/

namespace ProtocolGate.Config

theorem readCount_of_lookup {settings : Settings} {name : String} {minimum value : Nat}
    (standard : Nat) (found : settings.lookup name.toList = some (.int value))
    (bound : minimum ≤ value) : readCount settings name minimum standard = .ok value := by
  have notBelow : ¬ (value : Int) < minimum := by omega
  simp only [readCount, found, notBelow, if_false, Int.toNat_natCast]

theorem readSwitch_of_lookup {settings : Settings} {name : String} {value : Bool}
    (standard : Bool) (found : settings.lookup name.toList = some (.truth value)) :
    readSwitch settings name standard = .ok value := by
  simp only [readSwitch, found]

theorem readCost_of_lookup {settings : Settings} {name : String} {value : Float}
    (standard : Float) (found : settings.lookup name.toList = some (.float value))
    (bound : 0 ≤ value) : readCost settings name standard = .ok value := by
  simp only [readCost, found, bound, if_true]

/-- Validation accepts the settings of every configuration. -/
theorem read_settings (config : Config) : read config.settings = .ok config := by
  have maxStates := readCount_of_lookup 256
    (rfl : config.settings.lookup "max_states".toList = some (.int config.maxStates))
    config.one_le_maxStates
  have maxTransitions := readCount_of_lookup 1024
    (rfl : config.settings.lookup "max_transitions".toList = some (.int config.maxTransitions))
    (Nat.zero_le _)
  have maxPatternLength := readCount_of_lookup 512
    (rfl : config.settings.lookup "max_pattern_length".toList =
      some (.int config.maxPatternLength))
    config.one_le_maxPatternLength
  have canonicalBufferSize := readCount_of_lookup 8192
    (rfl : config.settings.lookup "canonical_buffer_size".toList =
      some (.int config.canonicalBufferSize))
    config.two_le_canonicalBufferSize
  have caseFold := readSwitch_of_lookup true
    (rfl : config.settings.lookup "case_fold".toList = some (.truth config.caseFold))
  have whitespaceCollapse := readSwitch_of_lookup true
    (rfl : config.settings.lookup "whitespace_collapse".toList =
      some (.truth config.whitespaceCollapse))
  have encodingNormalize := readSwitch_of_lookup true
    (rfl : config.settings.lookup "encoding_normalize".toList =
      some (.truth config.encodingNormalize))
  have rejectTruncated := readSwitch_of_lookup false
    (rfl : config.settings.lookup "reject_truncated".toList =
      some (.truth config.rejectTruncated))
  have preferRe2 := readSwitch_of_lookup true
    (rfl : config.settings.lookup "prefer_re2".toList = some (.truth config.preferRe2))
  have autonomousThreshold := readCost_of_lookup 0.5
    (rfl : config.settings.lookup "autonomous_threshold".toList =
      some (.float config.autonomousThreshold))
    config.zero_le_autonomousThreshold
  have warningThreshold := readCost_of_lookup 0.6
    (rfl : config.settings.lookup "warning_threshold".toList =
      some (.float config.warningThreshold))
    config.zero_le_warningThreshold
  simp only [read, maxStates, maxTransitions, maxPatternLength, canonicalBufferSize, caseFold,
    whitespaceCollapse, encodingNormalize, rejectTruncated, preferRe2, autonomousThreshold,
    warningThreshold, config.one_le_maxStates, config.one_le_maxPatternLength,
    config.two_le_canonicalBufferSize, config.zero_le_autonomousThreshold,
    config.zero_le_warningThreshold, config.thresholds_ordered, and_self, not_false_iff,
    dite_true]

end ProtocolGate.Config
