import ProtocolGate.Pattern.Escape
import ProtocolGate.Proofs.Specification.Export

/-!
String literals of C, trigraphs aside: a reader of every form of escape, one character at a time. A
literal of a header is read back exactly unless the text in it breaks the line.
-/

namespace ProtocolGate

namespace Specification.Header

open Pattern (isHexDigit isOctalDigit digitValue)

def isLineBreak (c : Char) : Bool :=
  c == '\n' || c == '\r'

namespace Literal

def simpleEscapes : List (Char × Char) :=
  [('\'', '\''), ('"', '"'), ('?', '?'), ('\\', '\\'), ('a', '\x07'), ('b', '\x08'),
    ('f', '\x0c'), ('n', '\n'), ('r', '\r'), ('t', '\t'), ('v', '\x0b')]

def byteChar? (code : Nat) : Option Char :=
  if code < 0x100 then some (Char.ofNat code) else none

/-- The character of a universal name. No such name is that of a surrogate, or of a control or basic
character. -/
def universalChar? (code : Nat) : Option Char :=
  if code.isValidChar && (0xA0 ≤ code || [0x24, 0x40, 0x60].contains code) then
    some (Char.ofNat code)
  else
    none

inductive Place where
  | text
  | escape
  | octal (room code : Nat)
  | hexadecimal (code : Option Nat)
  | universal (missing code : Nat)

inductive Step where
  | malformed
  | closed (read : Text)
  | goOn (read : Text) (place : Place)

def readText (c : Char) : Step :=
  if c == '"' then .closed []
  else if c == '\\' then .goOn [] .escape
  else if isLineBreak c then .malformed
  else .goOn [c] .text

def readEscape (c : Char) : Step :=
  match simpleEscapes.lookup c with
  | some char => .goOn [char] .text
  | none =>
    if isOctalDigit c then .goOn [] (.octal 2 (digitValue c))
    else if c == 'x' then .goOn [] (.hexadecimal none)
    else if c == 'u' then .goOn [] (.universal 4 0)
    else if c == 'U' then .goOn [] (.universal 8 0)
    else .malformed

def readAfter (char? : Option Char) (c : Char) : Step :=
  match char?, readText c with
  | none, _ | _, .malformed => .malformed
  | some char, .closed read => .closed (char :: read)
  | some char, .goOn read place => .goOn (char :: read) place

def readUniversal (missing code : Nat) : Step :=
  if missing ≠ 0 then .goOn [] (.universal missing code)
  else
    match universalChar? code with
    | some char => .goOn [char] .text
    | none => .malformed

def step : Place → Char → Step
  | .text, c => readText c
  | .escape, c => readEscape c
  | .octal room code, c =>
    if isOctalDigit c && room != 0 then .goOn [] (.octal (room - 1) (8 * code + digitValue c))
    else readAfter (byteChar? code) c
  | .hexadecimal code?, c =>
    if isHexDigit c then .goOn [] (.hexadecimal (some (16 * code?.getD 0 + digitValue c)))
    else readAfter (code? >>= byteChar?) c
  | .universal missing code, c =>
    if isHexDigit c then readUniversal (missing - 1) (16 * code + digitValue c)
    else .malformed

def readFrom : Place → Text → Option (Text × Text)
  | _, [] => none
  | place, c :: rest =>
    match step place c with
    | .malformed => none
    | .closed read => some (read, rest)
    | .goOn read next => (readFrom next rest).map fun (text, after) => (read ++ text, after)

end Literal

/-- Reads a string literal: the text that it denotes, and what comes after. -/
def readLiteral? : Text → Option (Text × Text)
  | '"' :: rest => Literal.readFrom .text rest
  | _ => none

namespace Literal

variable {c : Char} {rest : Text}

theorem readFrom_goOn {place next : Place} {read : Text} (goesOn : step place c = .goOn read next) :
    readFrom place (c :: rest) =
      (readFrom next rest).map fun (text, after) => (read ++ text, after) := by
  rw [readFrom, goesOn]

theorem readFrom_break (breaks : isLineBreak c = true) :
    readFrom .text (escape c ++ rest) = none := by
  simp only [isLineBreak, Bool.or_eq_true, beq_iff_eq] at breaks
  rcases breaks with rfl | rfl
  · rfl
  · rfl

theorem readFrom_escape (unbroken : isLineBreak c = false) :
    readFrom .text (escape c ++ rest) =
      (readFrom .text rest).map fun (text, after) => (c :: text, after) := by
  by_cases special : c = '\\' ∨ c = '"'
  · have written : escape c ++ rest = '\\' :: c :: rest := by
      rw [escape_eq, if_pos special]
      rfl
    have marked : step .escape c = .goOn [c] .text := by
      rcases special with rfl | rfl
      · rfl
      · rfl
    have opened : step .text '\\' = .goOn [] .escape := rfl
    rw [written, readFrom_goOn opened, readFrom_goOn marked, Option.map_map]
    rfl
  · have written : escape c ++ rest = c :: rest := by
      rw [escape_eq, if_neg special]
      rfl
    have ordinary : step .text c = .goOn [c] .text := by
      rw [not_or] at special
      simp [step, readText, special, unbroken]
    rw [written, readFrom_goOn ordinary]
    rfl

theorem readFrom_escaped (text rest : Text) :
    readFrom .text (text.flatMap escape ++ '"' :: rest) =
      if text.any isLineBreak then none else some (text, rest) := by
  induction text with
  | nil => rfl
  | cons c text ih =>
      rw [List.flatMap_cons, List.append_assoc, List.any_cons]
      cases breaks : isLineBreak c with
      | true => exact readFrom_break breaks
      | false =>
          rw [readFrom_escape breaks, ih, Bool.false_or]
          split
          · rfl
          · rfl

end Literal

/-- A literal is read back exactly if its text does not break the line, and otherwise it is not a
string literal. -/
theorem readLiteral?_literal (text rest : Text) :
    readLiteral? (literal text ++ rest) =
      if text.any isLineBreak then none else some (text, rest) := by
  rw [literal_append, readLiteral?]
  exact Literal.readFrom_escaped text rest

-- Escapes that no header has are read as well.
example : readLiteral? "\"a\\n\\x41\\102\\u00e9\" b".toList =
    some ("a\nAB\u00e9".toList, " b".toList) := by
  decide +kernel

example : readLiteral? "\"\\400\"".toList = none := by
  decide +kernel

def beforeRule (specification : Specification) (earlier : List StateEntry) (entry : StateEntry) :
    Text :=
  written (above specification) ++ written (earlier.map row) ++ rowStart entry

def afterRule (entry : StateEntry) (later : List StateEntry) : Text :=
  rowEnd entry ++ '\n' :: (written (later.map row) ++ written closing)

theorem render_at {specification : Specification} {earlier later : List StateEntry}
    {entry : StateEntry} (listed : specification.states = earlier ++ entry :: later) :
    render specification =
      beforeRule specification earlier entry ++ literal entry.rule ++ afterRule entry later := by
  rw [render_eq, listed, List.map_append, written_append, List.map_cons, written_cons, row_eq]
  simp only [beforeRule, afterRule, List.append_assoc, List.cons_append]

end Specification.Header

namespace Session

open Specification

/-- The header of any reachable engine writes the rule of each state as a literal that is read back
to the rule, at the place where it stands, unless the rule breaks the line. Then what stands there
is not a string literal. There is a header if all weights fit, and otherwise it overflows. -/
theorem exportAs_literal {config : Config} {session : Session}
    (reachable : Reachable config session) {earlier later : List State} {state : State}
    (listed : session.engine.registry.states = earlier ++ state :: later) :
    let entry := StateEntry.ofState session.engine.registry
    let before :=
      Header.beforeRule session.engine.described (earlier.map entry) (entry state)
    let after := Header.afterRule (entry state) (later.map entry)
    session.engine.exportAs (.text "header".toList) =
      (if session.engine.WeightsFit then .ok (before ++ Header.literal state.rule ++ after)
        else .error .overflow) ∧
    Header.readLiteral? (Header.literal state.rule ++ after) =
      if state.rule.any Header.isLineBreak then none else some (state.rule, after) := by
  intro entry before after
  have live : session.engine.initialized = true := by
    apply reachable.initialized_of_mem
    rw [listed]
    exact List.mem_append_right earlier List.mem_cons_self
  have described : session.engine.described.states =
      earlier.map entry ++ entry state :: later.map entry := by
    rw [← List.map_cons, ← List.map_append, ← listed]
    rfl
  constructor
  · rw [Engine.exportAs_header live reachable.consistent, Header.render_at described]
    rfl
  · exact Header.readLiteral?_literal state.rule after

@[irreducible]
def brokenSession (config : Config) : Session :=
  (new config).run
    [.start true, .register (.text "data_payload".toList) (some ['a', '\n', 'b']) none]

theorem exportAs_literal_broken :
    ∃ before after,
      (brokenSession {}).engine.exportAs (.text "header".toList) =
        .ok (before ++ Header.literal ['a', '\n', 'b'] ++ after) ∧
      Header.readLiteral? (Header.literal ['a', '\n', 'b'] ++ after) = none := by
  have reachable : Reachable {} (brokenSession {}) := by
    unfold brokenSession
    exact reachable_run {} _
  have rules : (brokenSession {}).engine.registry.states.map (·.rule) =
      [StandardRule.header, ['a', '\n', 'b']] := by
    decide +kernel
  obtain ⟨header, _, listed, -, others⟩ := List.map_eq_cons_iff.1 rules
  obtain ⟨state, _, rfl, rule, last⟩ := List.map_eq_cons_iff.1 others
  obtain rfl := List.map_eq_nil_iff.1 last
  have split : (brokenSession {}).engine.registry.states = [header] ++ state :: [] := listed
  have fit : (brokenSession {}).engine.WeightsFit := by decide +kernel
  have ⟨exported, unread⟩ := exportAs_literal reachable split
  rw [if_pos fit, rule] at exported
  rw [rule] at unread
  exact ⟨_, _, exported, unread⟩

end Session

end ProtocolGate
