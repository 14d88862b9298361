import ProtocolGate.Canonical.Rewrite

/-!
The canonical form of a text: encoded forms are rewritten from left to right, then letters are
lowered and blank runs collapsed. The rewritten text has a capacity; rewriting stops before the
first piece that does not fit, so no encoded form is ever cut.
-/

namespace ProtocolGate.Canonical

structure Piece where
  written : Text
  read : Nat
deriving DecidableEq

/-- The piece at the head of a text: what the first rewrite that applies writes, or else the first
character. -/
def Table.piece (table : Table) (c : Char) (rest : Text) : Piece :=
  match table.first? (c :: rest) with
  | some rewrite => { written := rewrite.canonical, read := rewrite.encoded.length }
  | none => { written := [c], read := 1 }

/-- Rewrites a text as far as the capacity allows; the result has what was written and what is left
to read. `fuel` bounds the number of moves. -/
def Table.rewrite (table : Table) : Nat → Nat → Text → Text × Text
  | 0, _, text => ([], text)
  | _ + 1, _, [] => ([], [])
  | fuel + 1, capacity, c :: rest =>
    let piece := table.piece c rest
    if piece.written.length ≤ capacity then
      let (written, left) :=
        table.rewrite fuel (capacity - piece.written.length) ((c :: rest).drop piece.read)
      (piece.written ++ written, left)
    else
      ([], c :: rest)

/-- A number of moves that suffices whenever every move reads or writes something. -/
def moveLimit (capacity : Nat) (text : Text) : Nat :=
  text.length + capacity + 1

structure Form where
  text : Text
  truncated : Bool := false
deriving DecidableEq

def Form.length (form : Form) : Nat :=
  form.text.length

structure Policy where
  caseFold : Bool := true
  whitespaceCollapse : Bool := true
  encodingNormalize : Bool := true
  table : Table := .standard

namespace Policy

def activeTable (policy : Policy) : Table :=
  if policy.encodingNormalize then policy.table else []

def finish (policy : Policy) (text : Text) : Text :=
  let folded := if policy.caseFold then asciiLower text else text
  if policy.whitespaceCollapse then collapseBlanks folded else folded

def form (policy : Policy) (capacity : Nat) (text : Text) : Form :=
  let (written, left) := policy.activeTable.rewrite (moveLimit capacity text) capacity text
  { text := policy.finish written, truncated := !left.isEmpty }

end Policy

end ProtocolGate.Canonical
