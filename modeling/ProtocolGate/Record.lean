import ProtocolGate.Digest
import ProtocolGate.Vocabulary

/-! Records: what a match leaves behind. -/

namespace ProtocolGate

structure Record where
  recordType : RecordType
  content : Text
  source : Int
deriving DecidableEq

namespace Record

def costPerCharacter : Float := 0.1

def ofMatch (source : Int) (patternType : PatternType) (content : Text) : Record :=
  { recordType := patternType.recordType, content, source }

def length (record : Record) : Nat :=
  record.content.length

def cost (record : Record) : Float :=
  costPerCharacter * Decimal.ofInt record.length

def digest (record : Record) : Text :=
  "sha256:".toList ++ Digest.sha256 (Digest.utf8 record.content)

/-- The summed cost of records, added from the first one on. -/
def totalCost (records : List Record) : Float :=
  records.foldl (fun total record => total + record.cost) 0

end Record

end ProtocolGate
