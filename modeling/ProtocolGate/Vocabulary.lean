import ProtocolGate.Datum

/-!
The vocabulary of the protocol: the types of patterns, the types of the records that matches
produce, and the standard match rules.
-/

namespace ProtocolGate

inductive RecordType where
  | protocolMessage
  | securityContext
  | payloadBlock
  | schemaValidation
  | auditRecord
  | errorCondition
deriving DecidableEq

def RecordType.name : RecordType → String
  | protocolMessage => "protocol_message"
  | securityContext => "security_context"
  | payloadBlock => "payload_block"
  | schemaValidation => "schema_validation"
  | auditRecord => "audit_record"
  | errorCondition => "error_condition"

inductive PatternType where
  | protocolHeader
  | securityToken
  | dataPayload
  | schemaReference
  | auditMarker
  | transitionBoundary
  | canonicalDelimiter
  | errorRecovery
deriving DecidableEq

namespace PatternType

def all : List PatternType :=
  [protocolHeader, securityToken, dataPayload, schemaReference, auditMarker, transitionBoundary,
    canonicalDelimiter, errorRecovery]

def name : PatternType → String
  | protocolHeader => "protocol_header"
  | securityToken => "security_token"
  | dataPayload => "data_payload"
  | schemaReference => "schema_reference"
  | auditMarker => "audit_marker"
  | transitionBoundary => "transition_boundary"
  | canonicalDelimiter => "canonical_delimiter"
  | errorRecovery => "error_recovery"

def ofDatum? : Datum → Option PatternType
  | .text given => all.find? fun patternType => patternType.name.toList == given
  | _ => none

def refusal (given : Datum) : Text :=
  given.shown ++ " is not a valid PatternType".toList

def isAccepting : PatternType → Bool
  | dataPayload | auditMarker => true
  | _ => false

/-- The type of the record for a match; a pattern type without one of its own signals an error. -/
def recordType : PatternType → RecordType
  | protocolHeader => .protocolMessage
  | securityToken => .securityContext
  | dataPayload => .payloadBlock
  | schemaReference => .schemaValidation
  | auditMarker => .auditRecord
  | transitionBoundary | canonicalDelimiter | errorRecovery => .errorCondition

end PatternType

namespace StandardRule

def header : Text := "^OBI-PROTOCOL-[0-9]+\\.[0-9]+:".toList

def securityToken : Text := "SEC:[A-F0-9]\x7b64\x7d".toList

def payloadDelimiter : Text := "PAYLOAD\\|[0-9]+\\|".toList

def schemaReference : Text := "SCHEMA:[A-Za-z0-9_-]+\\.[0-9]+".toList

def auditTimestamp : Text := "AUDIT:[0-9]\x7b13\x7d".toList

def patterns : List (PatternType × Text) :=
  [(.protocolHeader, header), (.securityToken, securityToken),
    (.schemaReference, schemaReference), (.dataPayload, payloadDelimiter),
    (.auditMarker, auditTimestamp)]

end StandardRule

end ProtocolGate
