import ProtocolGate.Proofs.Pattern.Compiled
import ProtocolGate.Proofs.Pattern.Longest
import ProtocolGate.Proofs.Scan.Cached
import ProtocolGate.Proofs.Text

/-!
What the standard rules match. Each of them is a row of words, of characters in any number, and of
characters in a fixed number, all of them ASCII. Main result: a standard rule matches the longest
beginning of a text that reads like this, and nothing where no beginning does.
-/

namespace ProtocolGate

open scoped Computability

structure Span where
  first : Char
  last : Char
deriving DecidableEq

namespace Span

def has (span : Span) (c : Char) : Bool :=
  span.first ≤ c && c ≤ span.last

def admits (ignoreCase : Bool) (span : Span) (c : Char) : Bool :=
  if ignoreCase then span.has c.toLower || span.has c.toUpper else span.has c

def letter (c : Char) : Span :=
  ⟨c, c⟩

end Span

def hasOneForm (c : Char) : Bool :=
  c.toLower == c && c.toUpper == c

theorem hasOneForm_iff {c : Char} : hasOneForm c = true ↔ c.toLower = c ∧ c.toUpper = c := by
  simp only [hasOneForm, Bool.and_eq_true, beq_iff_eq]

def admitted (ignoreCase : Bool) (spans : List Span) : Language Char :=
  Pattern.single fun c => spans.any (·.admits ignoreCase c)

inductive Part where
  | word (letters : Text)
  | several (spans : List Span)
  | counted (count : Nat) (spans : List Span)

namespace Part

def language (ignoreCase : Bool) : Part → Language Char
  | word letters => (letters.map fun c => admitted ignoreCase [.letter c]).prod
  | several spans => admitted ignoreCase spans * (admitted ignoreCase spans)∗
  | counted count spans => admitted ignoreCase spans ^ count

def isAscii : Part → Bool
  | word letters => letters.all (·.toNat < 128)
  | several spans | counted _ spans => spans.all (·.last.toNat < 128)

def startOutside (spans : List Span) : List Part → Bool
  | [] => true
  | word (c :: _) :: _ => hasOneForm c && !spans.any (·.has c)
  | _ => false

/-- What follows characters in any number cannot be taken for one more of them. -/
def areSeparated : List Part → Bool
  | [] => true
  | several spans :: rest => startOutside spans rest && areSeparated rest
  | _ :: rest => areSeparated rest

end Part

/-- A row of ASCII parts of which each ends where the next one starts. -/
structure Grammar where
  parts : List Part
  ascii : parts.all Part.isAscii = true := by decide
  separated : Part.areSeparated parts = true := by decide

def Grammar.language (ignoreCase : Bool) (grammar : Grammar) : Language Char :=
  (grammar.parts.map (Part.language ignoreCase)).prod

namespace StandardRule

def digits : List Span :=
  [⟨'0', '9'⟩]

def grammar : PatternType → Grammar
  | .protocolHeader =>
    { parts := [.word "OBI-PROTOCOL-".toList, .several digits, .word ".".toList, .several digits,
        .word ":".toList] }
  | .securityToken =>
    { parts := [.word "SEC:".toList, .counted 64 [⟨'A', 'F'⟩, ⟨'0', '9'⟩]] }
  | .dataPayload =>
    { parts := [.word "PAYLOAD|".toList, .several digits, .word "|".toList] }
  | .schemaReference =>
    { parts := [.word "SCHEMA:".toList,
        .several [⟨'A', 'Z'⟩, ⟨'a', 'z'⟩, ⟨'0', '9'⟩, .letter '_', .letter '-'],
        .word ".".toList, .several digits] }
  | .auditMarker =>
    { parts := [.word "AUDIT:".toList, .counted 13 digits] }
  | .transitionBoundary | .canonicalDelimiter | .errorRecovery => { parts := [] }

end StandardRule

/-! ## Characters -/

open Pattern (asciiLowerCode compileFlags)

theorem toNat_toLower_eq (c : Char) : c.toLower.toNat = asciiLowerCode c.toNat := by
  unfold asciiLowerCode
  split
  · rename_i capital
    exact toNat_toLower capital
  · rename_i other
    rw [toLower_of_not_capital other]

theorem mem_sources (c : Char) (code : Nat) :
    code ∈ (compileFlags true).sources ((compileFlags true).lower c.toNat) ↔
      code = c.toLower.toNat ∨ code = c.toUpper.toNat := by
  rw [toNat_toLower_eq, toNat_toUpper]
  simp only [Pattern.Flags.sources, Pattern.Flags.lower, compileFlags, if_true, asciiLowerCode]
  by_cases capital : 65 ≤ c.toNat ∧ c.toNat ≤ 90
  · rw [if_pos capital, if_pos (by omega), if_neg (by omega)]
    simp only [List.mem_cons, List.not_mem_nil, or_false]
    omega
  · rw [if_neg capital]
    by_cases small : 97 ≤ c.toNat ∧ c.toNat ≤ 122
    · rw [if_pos small, if_pos small]
      simp only [List.mem_cons, List.not_mem_nil, or_false]
    · rw [if_neg small, if_neg small, List.mem_singleton, or_self]

namespace Span

variable {ignoreCase : Bool} {span : Span} {c d : Char}

theorem has_iff : span.has c = true ↔ span.first.toNat ≤ c.toNat ∧ c.toNat ≤ span.last.toNat := by
  simp only [has, Bool.and_eq_true, decide_eq_true_eq]
  rfl

def member (span : Span) : Pattern.Member :=
  if span.first = span.last then .code span.first.toNat
  else .range span.first.toNat span.last.toNat

theorem letter_admits :
    (letter d).admits ignoreCase c = (compileFlags ignoreCase).same d.toNat c.toNat := by
  rw [Bool.eq_iff_iff]
  cases ignoreCase with
  | false =>
      simp only [admits, letter, Bool.false_eq_true, if_false, has_iff, Pattern.Flags.same,
        compileFlags, beq_iff_eq]
      omega
  | true =>
      simp only [admits, letter, if_true, Bool.or_eq_true, has_iff, Pattern.Flags.same,
        Pattern.Flags.alike, Pattern.Flags.lower, compileFlags, List.contains_eq_mem,
        List.mem_singleton, decide_eq_true_eq, toNat_toLower_eq, toNat_toUpper, asciiLowerCode]
      split <;> split <;> split <;> omega

theorem member_covers (ascii : span.last.toNat < 128) :
    span.member.covers (compileFlags ignoreCase) c.toNat = span.admits ignoreCase c := by
  obtain ⟨first, last⟩ := span
  have basic : ¬ Pattern.lastBasicCode < last.toNat := by
    unfold Pattern.lastBasicCode
    dsimp only at ascii
    omega
  unfold member
  split
  · rename_i same
    obtain rfl : first = last := same
    change Pattern.Member.covers _ _ (.code first.toNat) = (letter first).admits ignoreCase c
    rw [letter_admits]
    cases ignoreCase with
    | false => rfl
    | true => exact if_neg basic
  · cases ignoreCase with
    | false => rfl
    | true =>
        rw [Bool.eq_iff_iff]
        change ((_ : Bool) || (decide (Pattern.lastBasicCode < last.toNat) && _ && _)) = true ↔ _
        simp only [admits, if_true, Bool.or_eq_true, has_iff, basic, decide_false, Bool.false_and,
          Bool.false_eq_true, or_false, List.any_eq_true, mem_sources, Bool.and_eq_true,
          decide_eq_true_eq, exists_eq_left, or_and_right, exists_or]

theorem exists_code_of_admits (admits : span.admits ignoreCase c = true) :
    ∃ code, span.first.toNat ≤ code ∧ code ≤ span.last.toNat ∧
      (c.toNat = code ∨ (97 ≤ code ∧ code ≤ 122 ∧ c.toNat + 32 = code) ∨
        (65 ≤ code ∧ code ≤ 90 ∧ c.toNat = code + 32)) := by
  cases ignoreCase with
  | false =>
      obtain ⟨lower, upper⟩ := has_iff.mp admits
      exact ⟨c.toNat, lower, upper, .inl rfl⟩
  | true =>
      rw [Span.admits, if_pos rfl, Bool.or_eq_true, has_iff, has_iff] at admits
      rcases admits with ⟨lower, upper⟩ | ⟨lower, upper⟩
      · refine ⟨c.toLower.toNat, lower, upper, ?_⟩
        rw [toNat_toLower_eq, asciiLowerCode]
        split <;> omega
      · refine ⟨c.toUpper.toNat, lower, upper, ?_⟩
        rw [toNat_toUpper]
        split <;> omega

theorem toNat_lt_of_admits (ascii : span.last.toNat < 128)
    (admits : span.admits ignoreCase c = true) : c.toNat < 128 := by
  obtain ⟨code, _, upper, form⟩ := exists_code_of_admits admits
  omega

theorem admits_of_hasOneForm (oneForm : hasOneForm c = true) :
    span.admits ignoreCase c = span.has c := by
  obtain ⟨lower, upper⟩ := hasOneForm_iff.mp oneForm
  cases ignoreCase with
  | false => rfl
  | true => rw [admits, if_pos rfl, lower, upper, Bool.or_self]

theorem eq_of_letter_admits (oneForm : hasOneForm d = true)
    (admits : (letter d).admits ignoreCase c = true) : c = d := by
  obtain ⟨lower, upper⟩ := hasOneForm_iff.mp oneForm
  have notCapital : ¬ (65 ≤ d.toNat ∧ d.toNat ≤ 90) := by
    intro capital
    have code := congrArg Char.toNat lower
    rw [toNat_toLower_eq, asciiLowerCode, if_pos capital] at code
    omega
  have notSmall : ¬ (97 ≤ d.toNat ∧ d.toNat ≤ 122) := by
    intro small
    have code := congrArg Char.toNat upper
    rw [toNat_toUpper, if_pos small] at code
    omega
  obtain ⟨code, atLeast, atMost, form⟩ := exists_code_of_admits admits
  dsimp only [letter] at atLeast atMost
  exact Char.toNat_inj.mp (by omega)

end Span

/-! ## Parts -/

open Pattern (CharTest Node)

theorem accepts_exactly (ignoreCase : Bool) (d : Char) :
    (fun c => (CharTest.exactly d.toNat).accepts (compileFlags ignoreCase) c) =
      fun c => [Span.letter d].any (·.admits ignoreCase c) := by
  funext c
  rw [List.any_cons, List.any_nil, Bool.or_false, Span.letter_admits]
  rfl

theorem accepts_oneOf (ignoreCase : Bool) {spans : List Span}
    (ascii : spans.all (·.last.toNat < 128) = true) :
    (fun c => (CharTest.oneOf (spans.map Span.member)).accepts (compileFlags ignoreCase) c) =
      fun c => spans.any (·.admits ignoreCase c) := by
  funext c
  rw [Bool.eq_iff_iff]
  simp only [CharTest.accepts, List.any_map, List.any_eq_true, Function.comp]
  refine exists_congr fun span => and_congr_right fun member => ?_
  rw [Span.member_covers (of_decide_eq_true (List.all_eq_true.mp ascii span member))]

namespace Part

variable {ignoreCase : Bool}

def nodes : Part → List Node
  | word letters => letters.map fun c => .char (.exactly c.toNat)
  | several spans => [.repeated .greedy 1 none (.char (.oneOf (spans.map Span.member)))]
  | counted count spans =>
    [.repeated .greedy count (some count) (.char (.oneOf (spans.map Span.member)))]

theorem reads_word {rest : List Node} {language : Language Char}
    (reads : Node.Reads (compileFlags ignoreCase) rest language) (letters : Text) :
    Node.Reads (compileFlags ignoreCase) ((word letters).nodes ++ rest)
      ((word letters).language ignoreCase * language) := by
  induction letters with
  | nil =>
      rw [Part.language, List.map_nil, List.prod_nil, one_mul]
      exact reads
  | cons c letters ih =>
      have first := ih.char (.exactly c.toNat)
      rw [accepts_exactly] at first
      rw [Part.language, List.map_cons, List.prod_cons, mul_assoc]
      exact first

theorem apart_of_startOutside {spans : List Span} {rest : List Part}
    (outside : startOutside spans rest = true) :
    Pattern.Apart (fun c => spans.any (·.admits ignoreCase c))
      (rest.map (Part.language ignoreCase)).prod := by
  intro c text member
  match rest, outside with
  | [], _ => exact absurd member (by simp [Language.mem_one])
  | word (d :: letters) :: others, outside =>
      simp only [startOutside, Bool.and_eq_true, Bool.not_eq_true'] at outside
      obtain ⟨oneForm, outside⟩ := outside
      rw [List.map_cons, List.prod_cons, Part.language, List.map_cons, List.prod_cons, mul_assoc]
        at member
      obtain ⟨_, _, shape, admits, _⟩ := Pattern.mem_single_mul.mp member
      obtain ⟨rfl, _⟩ := List.cons.inj shape
      rw [List.any_cons, List.any_nil, Bool.or_false] at admits
      obtain rfl := Span.eq_of_letter_admits oneForm admits
      simpa only [Span.admits_of_hasOneForm oneForm] using outside

theorem reads_parts {parts : List Part} (ascii : parts.all isAscii = true)
    (separated : areSeparated parts = true) :
    Node.Reads (compileFlags ignoreCase) (parts.flatMap nodes)
      (parts.map (Part.language ignoreCase)).prod := by
  induction parts with
  | nil => exact Node.reads_nil
  | cons part rest ih =>
      rw [List.all_cons, Bool.and_eq_true] at ascii
      rw [List.flatMap_cons, List.map_cons, List.prod_cons]
      cases part with
      | word letters => exact reads_word (ih ascii.2 separated) letters
      | several spans =>
          rw [areSeparated, Bool.and_eq_true] at separated
          have reads := (ih ascii.2 separated.2).several (.oneOf (spans.map Span.member))
          rw [accepts_oneOf ignoreCase ascii.1] at reads
          rw [Part.language, mul_assoc]
          exact reads (apart_of_startOutside separated.1)
      | counted count spans =>
          have reads := (ih ascii.2 separated).counted (.oneOf (spans.map Span.member)) count
          rw [accepts_oneOf ignoreCase ascii.1] at reads
          exact reads

end Part

/-! ## ASCII -/

def Ascii (language : Language Char) : Prop :=
  ∀ text ∈ language, ∀ c ∈ text, c.toNat < 128

namespace Ascii

variable {left right : Language Char}

theorem one : Ascii 1 := by
  rintro _ rfl c member
  contradiction

theorem mul (leftAscii : Ascii left) (rightAscii : Ascii right) : Ascii (left * right) := by
  intro text member c inside
  obtain ⟨first, firstMember, second, secondMember, rfl⟩ := Language.mem_mul.mp member
  rcases List.mem_append.mp inside with inFirst | inSecond
  · exact leftAscii first firstMember c inFirst
  · exact rightAscii second secondMember c inSecond

theorem pow (ascii : Ascii left) (count : Nat) : Ascii (left ^ count) := by
  induction count with
  | zero => exact one
  | succ count ih => exact ih.mul ascii

theorem kstar (ascii : Ascii left) : Ascii left∗ := by
  intro text member c inside
  obtain ⟨texts, rfl, members⟩ := Language.mem_kstar.mp member
  obtain ⟨part, among, inPart⟩ := List.mem_flatten.mp inside
  exact ascii part (members part among) c inPart

theorem prod {languages : List (Language Char)}
    (ascii : ∀ language ∈ languages, Ascii language) : Ascii languages.prod := by
  induction languages with
  | nil => exact one
  | cons language rest ih =>
      rw [List.forall_mem_cons] at ascii
      rw [List.prod_cons]
      exact ascii.1.mul (ih ascii.2)

end Ascii

theorem admitted_ascii {spans : List Span} (ascii : spans.all (·.last.toNat < 128) = true)
    (ignoreCase : Bool) : Ascii (admitted ignoreCase spans) := by
  rintro _ ⟨c, admits, rfl⟩ d member
  obtain rfl := List.mem_singleton.mp member
  obtain ⟨span, among, admits⟩ := List.any_eq_true.mp admits
  exact Span.toNat_lt_of_admits (of_decide_eq_true (List.all_eq_true.mp ascii span among)) admits

theorem Part.language_ascii {part : Part} (ascii : part.isAscii = true) (ignoreCase : Bool) :
    Ascii (part.language ignoreCase) := by
  cases part with
  | word letters =>
      refine Ascii.prod (List.forall_mem_map.mpr fun c member => ?_)
      refine admitted_ascii ?_ ignoreCase
      rw [List.all_cons, List.all_nil, Bool.and_true]
      exact List.all_eq_true.mp ascii c member
  | several spans =>
      have one := admitted_ascii ascii ignoreCase
      exact one.mul one.kstar
  | counted count spans => exact (admitted_ascii ascii ignoreCase).pow count

theorem Grammar.language_ascii (grammar : Grammar) (ignoreCase : Bool) :
    Ascii (grammar.language ignoreCase) :=
  Ascii.prod (List.forall_mem_map.mpr fun part member =>
    Part.language_ascii (List.all_eq_true.mp grammar.ascii part member) ignoreCase)

/-! ## The standard rules -/

deriving instance DecidableEq for Pattern.Node
deriving instance DecidableEq for Pattern.Compiled

namespace StandardRule

def anchors : PatternType → List Node
  | .protocolHeader => [.anchor .lineStart]
  | _ => []

theorem compile_eq : ∀ entry ∈ patterns, ∀ ignoreCase,
    (Pattern.compile ignoreCase entry.2).toOption =
      some
        { node := Node.ofSequence
            (anchors entry.1 ++ (grammar entry.1).parts.flatMap Part.nodes)
          flags := compileFlags ignoreCase } := by
  decide +kernel

theorem anchors_matchLength? (type : PatternType) (nodes : List Node) (flags : Pattern.Flags)
    (text : Text) :
    (Node.ofSequence (anchors type ++ nodes)).matchLength? flags text =
      (Node.ofSequence nodes).matchLength? flags text := by
  cases type with
  | protocolHeader => exact Node.lineStart_matchLength? text
  | _ => rfl

/-- A standard rule matches the longest beginning of a text that is in the language of its grammar,
and nothing if there is none. What it matches is ASCII. -/
theorem matchLength_longest {cache : Pattern.Cache} (sound : cache.Sound) (ignoreCase : Bool)
    {type : PatternType} {rule : Text} (standard : (type, rule) ∈ patterns) (text : Text) :
    ∃ length?, (cache.matchLength? ignoreCase rule text).1 = .ok length? ∧
      Pattern.LongestLength ((grammar type).language ignoreCase) text length? ∧
      ∀ length, length? = some length → ∀ c ∈ text.take length, c.toNat < 128 := by
  have compiles := eq_ok_of_toOption (compile_eq (type, rule) standard ignoreCase)
  have reads : Node.Reads (compileFlags ignoreCase) ((grammar type).parts.flatMap Part.nodes)
      ((grammar type).language ignoreCase) :=
    Part.reads_parts (grammar type).ascii (grammar type).separated
  have longest := reads.matchLength? text
  rw [← anchors_matchLength? type] at longest
  have answer := (sound.matchLength? ignoreCase rule text).1
  rw [compiles] at answer
  refine ⟨_, answer, longest, ?_⟩
  intro length (matched : Node.matchLength? _ _ _ = _)
  rw [matched] at longest
  exact (grammar type).language_ascii ignoreCase _ longest.take_mem

theorem matchLength_longest_schema :
    Pattern.Cache.Sound {} ∧ (.schemaReference, schemaReference) ∈ patterns ∧
      (Pattern.Cache.matchLength? {} true schemaReference "schema:Order_v2.13;".toList).1 =
        .ok (some 18) ∧
      Pattern.LongestLength ((grammar .schemaReference).language true)
        "schema:Order_v2.13;".toList (some 18) := by
  have standard : (.schemaReference, schemaReference) ∈ patterns := by decide
  have matched :
      (Pattern.Cache.matchLength? {} true schemaReference "schema:Order_v2.13;".toList).1 =
        .ok (some 18) := eq_ok_of_toOption (by decide +kernel)
  obtain ⟨length?, answer, longest, _⟩ :=
    matchLength_longest Pattern.Cache.empty_sound true standard "schema:Order_v2.13;".toList
  obtain rfl : some 18 = length? := Except.ok.inj (matched.symm.trans answer)
  exact ⟨Pattern.Cache.empty_sound, standard, matched, longest⟩

example : (Pattern.Cache.matchLength? {} true auditTimestamp
    "aud\u0131t:1718409600000".toList).1.toOption = some none := by
  decide +kernel

end StandardRule

end ProtocolGate
