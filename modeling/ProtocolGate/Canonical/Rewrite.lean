import ProtocolGate.Text

/-!
Rewrites of encoded forms. A table of rewrites is tried in order, and the first rewrite whose
encoded form opens the rest of the text applies. The case of ASCII letters in the text does not
count. A rewrite is shadowed when the encoded form of an earlier one starts its own: wherever it could
apply, the earlier one applies first.
-/

namespace ProtocolGate.Canonical

structure Rewrite where
  encoded : Text
  canonical : Text
  risk : Text
deriving DecidableEq

def opensWith : Text → Text → Bool
  | [], _ => true
  | _ :: _, [] => false
  | expected :: form, c :: text => c.toLower == expected && opensWith form text

namespace Rewrite

def opens (rewrite : Rewrite) (text : Text) : Bool :=
  opensWith rewrite.encoded text

/-- The encoded form occurs at a position of a text; a negative position counts from the end, and
the form has to end inside the text. -/
def occursAt (rewrite : Rewrite) (text : Text) (position : Int) : Bool :=
  let stop := position + rewrite.encoded.length
  decide (stop ≤ text.length) && asciiLower (slice text position stop) == rewrite.encoded

end Rewrite

abbrev Table := List Rewrite

namespace Table

def first? (table : Table) (text : Text) : Option Rewrite :=
  table.find? fun rewrite => rewrite.opens text

def find? (table : Table) (text : Text) (position : Int) : Option Rewrite :=
  List.find? (fun rewrite => rewrite.occursAt text position) table

def standard : Table :=
  [{ encoded := "%2e%2e%2f".toList, canonical := "../".toList, risk := "path_traversal".toList },
    { encoded := "..%2e/".toList, canonical := "../".toList, risk := "mixed_encoding".toList },
    { encoded := "%c0%af".toList, canonical := "../".toList, risk := "utf8_overlong".toList },
    { encoded := ".%2e/".toList, canonical := "../".toList, risk := "mixed_encoding".toList },
    { encoded := "%2e%2e/".toList, canonical := "../".toList, risk := "mixed_encoding".toList },
    { encoded := "%2f".toList, canonical := "/".toList, risk := "basic_encoding".toList },
    { encoded := "%2e".toList, canonical := ".".toList, risk := "basic_encoding".toList },
    { encoded := "%20".toList, canonical := " ".toList, risk := "whitespace_encoding".toList },
    { encoded := "%c0%ae".toList, canonical := ".".toList, risk := "utf8_overlong".toList },
    { encoded := "%c0%af".toList, canonical := "/".toList, risk := "utf8_overlong".toList },
    { encoded := "%3a".toList, canonical := ":".toList, risk := "delimiter_encoding".toList },
    { encoded := "%7c".toList, canonical := "|".toList, risk := "delimiter_encoding".toList }]

/-- The first earlier rewrite that shadows the one at an index. -/
def winner? (table : Table) (index : Nat) : Option Rewrite := do
  let rewrite ← table[index]?
  (table.take index).find? fun earlier => earlier.encoded.isPrefixOf rewrite.encoded

def isShadowed (table : Table) (index : Nat) : Bool :=
  (table.winner? index).isSome

def shadowed (table : Table) : List (Rewrite × Rewrite) :=
  (List.range table.length).filterMap fun index =>
    match table[index]?, table.winner? index with
    | some rewrite, some winner => some (rewrite, winner)
    | _, _ => none

end Table

end ProtocolGate.Canonical
