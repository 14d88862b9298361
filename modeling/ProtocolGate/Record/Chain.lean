import ProtocolGate.Record

/-!
Chains of shared records. Records are created on their own and linked into a chain afterwards; a
record that is linked again is moved, and its old neighbours keep pointing to it. So a chain can
come to run in a circle.
-/

namespace ProtocolGate

/-- All records created so far, their links to a next record, and one chain over them. -/
structure Chain where
  records : List Record := []
  links : List (Option Nat) := []
  head : Option Nat := none
  tail : Option Nat := none
  size : Nat := 0

namespace Chain

def create (chain : Chain) (record : Record) : Nat × Chain :=
  (chain.records.length,
    { chain with records := chain.records ++ [record], links := chain.links ++ [none] })

def next? (chain : Chain) (index : Nat) : Option Nat :=
  (chain.links[index]?).join

def link (chain : Chain) (index : Nat) (next : Option Nat) : Chain :=
  { chain with links := chain.links.set index next }

def append (chain : Chain) (index : Nat) : Chain :=
  let unlinked := chain.link index none
  let joined := match chain.tail with
    | none => { unlinked with head := some index }
    | some last => unlinked.link last (some index)
  { joined with tail := some index, size := chain.size + 1 }

/-- Removes the links from a record on; the walk ends, because links once removed stay removed. -/
def unlinkFrom (chain : Chain) : Nat → Option Nat → Chain
  | 0, _ => chain
  | _ + 1, none => chain
  | fuel + 1, some index => unlinkFrom (chain.link index none) fuel (chain.next? index)

def clear (chain : Chain) : Chain :=
  let unlinked := chain.unlinkFrom (chain.records.length + 1) chain.head
  { unlinked with head := none, tail := none, size := 0 }

/-- The records from one on, in at most `fuel` steps; `none` if the end is not reached by then. -/
def walkFrom? (chain : Chain) : Nat → Option Nat → Option (List Nat)
  | _, none => some []
  | 0, some _ => none
  | fuel + 1, some index => (walkFrom? chain fuel (chain.next? index)).map (index :: ·)

def walk? (chain : Chain) : Option (List Nat) :=
  chain.walkFrom? chain.records.length chain.head

def toList? (chain : Chain) : Option (List Record) :=
  chain.walk?.map fun order => order.filterMap (chain.records[·]?)

def shown (size : Nat) (records : List Record) : Text :=
  let types := records.map fun record => Datum.text record.recordType.name.toList
  "IRList(size=".toList ++ numeral size ++ ", types=".toList ++ (Datum.list types).shown ++ [')']

end Chain

end ProtocolGate
