import ProtocolGate.Specification

/-!
Specifications as a C header: constants for the limits, the standard rules, and one table row for
every state.
-/

namespace ProtocolGate.Specification.Header

def escape (c : Char) : Text :=
  if c == '\\' || c == '"' then ['\\', c] else [c]

def literal (text : Text) : Text :=
  '"' :: text.flatMap escape ++ ['"']

def switch (on : Bool) : Text :=
  if on then ['1'] else ['0']

def definition (name : String) (value : Text) : Text :=
  "#define ".toList ++ name.toList ++ ' ' :: value

def ruleConstants : List (String × Text) :=
  [("OBI_PATTERN_HEADER_MARKER", StandardRule.header),
    ("OBI_PATTERN_SECURITY_TOKEN", StandardRule.securityToken),
    ("OBI_PATTERN_PAYLOAD_DELIMITER", StandardRule.payloadDelimiter),
    ("OBI_PATTERN_SCHEMA_REF", StandardRule.schemaReference),
    ("OBI_PATTERN_AUDIT_TIMESTAMP", StandardRule.auditTimestamp)]

def ruleConstant (name : String) (rule : Text) : Text :=
  "static const char *".toList ++ name.toList ++ " = ".toList ++ literal rule ++ [';']

def row (entry : StateEntry) : Text :=
  "    \x7b".toList ++ signedNumeral entry.id ++ [',', ' '] ++
    literal entry.patternType.name.toList ++ [',', ' '] ++ literal entry.rule ++ [',', ' '] ++
    switch entry.isAccepting ++ [',', ' '] ++ switch entry.requiresZeroTrust ++ ['\x7d', ',']

def opening : List Text :=
  ["/*".toList,
    " * OBI Protocol DFA Specification (generated)".toList,
    (" * protocol " ++ protocolVersion ++ ", schema " ++ schemaVersion).toList,
    " */".toList,
    [],
    "#ifndef OBIPROTOCOL_DFA_SPEC_H".toList,
    "#define OBIPROTOCOL_DFA_SPEC_H".toList,
    []]

def constants (specification : Specification) : List Text :=
  [definition "OBI_MAX_STATES" (signedNumeral specification.limits.states),
    definition "OBI_MAX_TRANSITIONS" (signedNumeral specification.limits.transitions),
    definition "OBI_MAX_PATTERN_LENGTH" (signedNumeral specification.limits.ruleLength),
    definition "OBI_CANONICAL_BUFFER_SIZE" (numeral specification.bufferSize),
    definition "OBI_ZERO_TRUST_ENFORCED" (switch specification.zeroTrust),
    definition "OBI_STATE_COUNT" (numeral specification.states.length),
    []]

def rowType : List Text :=
  [[],
    "typedef struct \x7b".toList,
    "    unsigned int state_id;".toList,
    "    const char *pattern_type;".toList,
    "    const char *regex;".toList,
    "    int is_accepting;".toList,
    "    int requires_zero_trust;".toList,
    "\x7d obi_dfa_state_spec_t;".toList,
    [],
    "static const obi_dfa_state_spec_t OBI_DFA_STATES[] = \x7b".toList]

def closing : List Text :=
  ["\x7d;".toList, [], "#endif /* OBIPROTOCOL_DFA_SPEC_H */".toList]

def lines (specification : Specification) : List Text :=
  opening ++ constants specification ++
    ruleConstants.map (fun (name, rule) => ruleConstant name rule) ++ rowType ++
    specification.states.map row ++ closing

/-- A specification as a C header; every line ends with a line break. -/
def render (specification : Specification) : Text :=
  (lines specification).flatMap fun line => line ++ ['\n']

end ProtocolGate.Specification.Header
