import Mathlib.Data.List.Find
import ProtocolGate.Proofs.Pattern.Vocabulary
import ProtocolGate.Proofs.Registry.Calls
import ProtocolGate.Proofs.Scan.Segmentation
import ProtocolGate.Proofs.Scan.States

/-!
The order of the states. Each standard rule opens with a word of its own, and none of these words
opens another one, so of any text no two standard rules match a beginning. Where at most one state
takes a part of a text, it does not matter in which order the states are tried. Main result: the
standard states scan every text alike in every order.
-/

namespace ProtocolGate

/-! ## Openings -/

def allLarge (text : Text) : Bool :=
  text.all fun c => c.toNat < 97 || 122 < c.toNat

theorem Span.toUpper_of_letter_admits {ignoreCase : Bool} {c d : Char}
    (notSmall : d.toNat < 97 ∨ 122 < d.toNat)
    (admits : (letter d).admits ignoreCase c = true) : c.toUpper = d := by
  obtain ⟨code, atLeast, atMost, form⟩ := exists_code_of_admits admits
  dsimp only [letter] at atLeast atMost
  apply Char.toNat_inj.mp
  rw [toNat_toUpper]
  split <;> omega

theorem Part.word_prefix_of_mem {ignoreCase : Bool} {letters text : Text}
    {language : Language Char} (large : allLarge letters = true)
    (member : text ∈ (word letters).language ignoreCase * language) :
    letters <+: text.map Char.toUpper := by
  induction letters generalizing text with
  | nil => exact List.nil_prefix
  | cons d letters ih =>
      simp only [allLarge, List.all_cons, Bool.and_eq_true, Bool.or_eq_true, decide_eq_true_eq]
        at large
      rw [Part.language, List.map_cons, List.prod_cons, mul_assoc] at member
      obtain ⟨c, rest, rfl, admits, later⟩ := Pattern.mem_single_mul.mp member
      rw [List.any_cons, List.any_nil, Bool.or_false] at admits
      rw [List.map_cons, Span.toUpper_of_letter_admits large.1 admits, List.cons_prefix_cons]
      exact ⟨rfl, ih large.2 later⟩

def Grammar.opening (grammar : Grammar) : Text :=
  match grammar.parts with
  | .word letters :: _ => letters
  | _ => []

theorem Grammar.opening_prefix_of_mem {ignoreCase : Bool} {grammar : Grammar} {text : Text}
    (large : allLarge grammar.opening = true)
    (member : text ∈ grammar.language ignoreCase) :
    grammar.opening <+: text.map Char.toUpper := by
  unfold opening at large ⊢
  split at large <;> rename_i shape
  · rw [Grammar.language, shape, List.map_cons, List.prod_cons] at member
    exact Part.word_prefix_of_mem large member
  · exact List.nil_prefix

def Pattern.Matches (ignoreCase : Bool) (rule text : Text) : Prop :=
  ∃ compiled length, Pattern.compile ignoreCase rule = .ok compiled ∧
    compiled.matchLength? text = some length

namespace StandardRule

open Pattern (Node compileFlags)

variable {ignoreCase : Bool} {entry left right : PatternType × Text} {text : Text}

theorem opening_large (type : PatternType) : allLarge (grammar type).opening = true := by
  cases type <;> decide

theorem eq_of_opening : ∀ left ∈ patterns, ∀ right ∈ patterns,
    (grammar left.1).opening <+: (grammar right.1).opening → left = right := by
  decide +kernel

theorem exists_mem_language (standard : entry ∈ patterns)
    (found : Pattern.Matches ignoreCase entry.2 text) :
    ∃ length, text.take length ∈ (grammar entry.1).language ignoreCase := by
  obtain ⟨compiled, length, compiles, matched⟩ := found
  have known := eq_ok_of_toOption (compile_eq entry standard ignoreCase)
  rw [compiles] at known
  obtain rfl := Except.ok.inj known
  have reads : Node.Reads (compileFlags ignoreCase) ((grammar entry.1).parts.flatMap Part.nodes)
      ((grammar entry.1).language ignoreCase) :=
    Part.reads_parts (grammar entry.1).ascii (grammar entry.1).separated
  have longest := reads.matchLength? text
  rw [← anchors_matchLength? entry.1] at longest
  change Node.matchLength? _ _ _ = _ at matched
  rw [matched] at longest
  exact ⟨length, longest.take_mem⟩

theorem opening_begins (standard : entry ∈ patterns)
    (found : Pattern.Matches ignoreCase entry.2 text) :
    (grammar entry.1).opening <+: text.map Char.toUpper := by
  obtain ⟨length, member⟩ := exists_mem_language standard found
  have opens := Grammar.opening_prefix_of_mem (opening_large entry.1) member
  rw [List.map_take] at opens
  exact opens.trans (List.take_prefix _ _)

theorem eq_of_matches (leftStandard : left ∈ patterns) (rightStandard : right ∈ patterns)
    (leftFound : Pattern.Matches ignoreCase left.2 text)
    (rightFound : Pattern.Matches ignoreCase right.2 text) : left = right := by
  have leftOpens := opening_begins leftStandard leftFound
  have rightOpens := opening_begins rightStandard rightFound
  rcases List.prefix_or_prefix_of_prefix leftOpens rightOpens with shorter | shorter
  · exact eq_of_opening left leftStandard right rightStandard shorter
  · exact (eq_of_opening right rightStandard left leftStandard shorter).symm

end StandardRule

namespace Scan

/-! ## Reordering -/

variable {ignoreCase : Bool} {states permuted : List State}

/-- At most one of the states takes a part of any given text. -/
def Exclusive (ignoreCase : Bool) (states : List State) : Prop :=
  ∀ left ∈ states, ∀ right ∈ states, ∀ text leftLength rightLength,
    Takes ignoreCase left text leftLength → Takes ignoreCase right text rightLength → left = right

theorem Exclusive.firstTakes_iff (exclusive : Exclusive ignoreCase states) {text : Text}
    {state : State} {length : Nat} :
    FirstTakes ignoreCase states text state length ↔
      state ∈ states ∧ Takes ignoreCase state text length := by
  constructor
  · rintro ⟨earlier, later, rfl, takes, _⟩
    exact ⟨by simp, takes⟩
  · rintro ⟨member, takes⟩
    obtain ⟨first, firstLength, found⟩ := exists_firstTakes member takes
    have firstMember : first ∈ states := by
      obtain ⟨earlier, later, rfl, _⟩ := found
      simp
    obtain rfl := exclusive _ firstMember _ member _ _ _ found.takes takes
    obtain rfl := found.takes.length_eq takes
    exact found

theorem Exclusive.perm (exclusive : Exclusive ignoreCase states)
    (reordered : permuted.Perm states) : Exclusive ignoreCase permuted := by
  intro left leftMember right rightMember
  exact exclusive left (reordered.subset leftMember) right (reordered.subset rightMember)

theorem Ready.perm (ready : Ready ignoreCase states) (reordered : permuted.Perm states) :
    Ready ignoreCase permuted :=
  ⟨fun state member => ready.compiles state (reordered.subset member),
    fun state member => ready.returns state (reordered.subset member)⟩

theorem firstMatch_perm (ready : Ready ignoreCase states) (exclusive : Exclusive ignoreCase states)
    (reordered : permuted.Perm states) (text : Text) :
    firstMatch (candidates ignoreCase permuted) text =
      firstMatch (candidates ignoreCase states) text := by
  obtain ⟨found, searched, spec⟩ := firstMatch_spec (ready.perm reordered) text
  obtain ⟨other, again, otherSpec⟩ := firstMatch_spec ready text
  rw [searched, again]
  congr 1
  apply Option.ext
  rintro ⟨state, length⟩
  rw [spec, otherSpec, exclusive.firstTakes_iff, (exclusive.perm reordered).firstTakes_iff,
    reordered.mem_iff]

theorem find?_id_perm (distinct : (states.map State.id).Nodup) (reordered : permuted.Perm states)
    (id : Int) :
    (permuted.find? fun state => state.id == id) = states.find? fun state => state.id == id := by
  refine (List.find?_eq_find?_of_perm reordered.symm ?_).symm
  rintro left ⟨leftMember, leftId⟩ right ⟨rightMember, rightId⟩
  rw [beq_iff_eq] at leftId rightId
  exact List.inj_on_of_nodup_map distinct leftMember rightMember (leftId.trans rightId.symm)

theorem scan_perm (ready : Ready ignoreCase states) (exclusive : Exclusive ignoreCase states)
    (distinct : (states.map State.id).Nodup) (reordered : permuted.Perm states)
    (form : Canonical.Form) (initialState : Int) :
    scan ignoreCase form permuted initialState = scan ignoreCase form states initialState :=
  scan_congr (firstMatch_perm ready exclusive reordered)
    (fun state _ => find?_id_perm distinct reordered state.id) form initialState

/-! ## The standard states -/

section Standard

variable (standard : states.map (fun state => (state.patternType, state.rule)) =
  StandardRule.patterns)

include standard

theorem mem_patterns {state : State} (member : state ∈ states) :
    (state.patternType, state.rule) ∈ StandardRule.patterns := by
  rw [← standard]
  exact List.mem_map_of_mem member

theorem ready_of_standard (plain : ∀ state ∈ states, state.validator = none) :
    Ready ignoreCase states := by
  constructor
  · intro state member
    exact ⟨_, eq_ok_of_toOption
      (StandardRule.compile_eq _ (mem_patterns standard member) ignoreCase)⟩
  · intro state member validator given
    rw [plain state member] at given
    contradiction

theorem exclusive_of_standard : Exclusive ignoreCase states := by
  intro left leftMember right rightMember text leftLength rightLength leftTakes rightTakes
  obtain ⟨leftCompiled, leftCompiles, leftMatched⟩ := leftTakes.matched
  obtain ⟨rightCompiled, rightCompiles, rightMatched⟩ := rightTakes.matched
  have same := StandardRule.eq_of_matches (mem_patterns standard leftMember)
    (mem_patterns standard rightMember) ⟨leftCompiled, leftLength, leftCompiles, leftMatched⟩
    ⟨rightCompiled, rightLength, rightCompiles, rightMatched⟩
  have distinct : (states.map fun state => (state.patternType, state.rule)).Nodup := by
    rw [standard]
    decide
  exact List.inj_on_of_nodup_map distinct leftMember rightMember same

end Standard

/-- The standard states, in whatever order they are tried, make the same of every text. No two of
their rules match at one place. -/
theorem scan_standard_perm
    (standard : states.map (fun state => (state.patternType, state.rule)) =
      StandardRule.patterns)
    (plain : ∀ state ∈ states, state.validator = none)
    (distinct : (states.map State.id).Nodup) (reordered : permuted.Perm states)
    (ignoreCase : Bool) (form : Canonical.Form) (initialState : Int) :
    (∃ outcome, scan ignoreCase form states initialState = .ok outcome ∧
      scan ignoreCase form permuted initialState = .ok outcome) ∧
    ∀ text, ∀ left ∈ StandardRule.patterns, ∀ right ∈ StandardRule.patterns,
      Pattern.Matches ignoreCase left.2 text → Pattern.Matches ignoreCase right.2 text →
        left = right := by
  have ready : Ready ignoreCase states := ready_of_standard standard plain
  constructor
  · obtain ⟨segments, cut, _⟩ := segmentsFrom_segmentation ready (Nat.le_refl form.text.length)
    have scanned : scan ignoreCase form states initialState =
        .ok (.ofSegments form states initialState segments) := by
      simp only [scan, Scan.segments, cut, Except.map]
    refine ⟨_, scanned, ?_⟩
    rw [scan_perm ready (exclusive_of_standard standard) distinct reordered, scanned]
  · intro text left leftStandard right rightStandard
    exact StandardRule.eq_of_matches leftStandard rightStandard

def standardStates : List State :=
  (({ ignoreCase := true } : Registry).run (StandardRule.patterns.map fun (type, rule) =>
    .register (.text type.name.toList) (some rule) none none)).states

theorem scan_standard_perm_reverse :
    ∃ outcome, scan true { text := "schema:a.1 audit:1718409600000".toList } standardStates 0 =
        .ok outcome ∧
      scan true { text := "schema:a.1 audit:1718409600000".toList } standardStates.reverse 0 =
        .ok outcome ∧
      outcome.matchedStates = [2, 4] ∧ outcome.unmatched = 1 ∧ outcome.accepted = true := by
  obtain ⟨standard, plain, distinct, computed⟩ :
      standardStates.map (fun state => (state.patternType, state.rule)) =
        StandardRule.patterns ∧
      (∀ state ∈ standardStates, state.validator.isNone = true) ∧
      (standardStates.map State.id).Nodup ∧
      (scan true { text := "schema:a.1 audit:1718409600000".toList }
        standardStates 0).toOption.map
        (fun outcome => (outcome.matchedStates, outcome.unmatched, outcome.accepted)) =
        some ([2, 4], 1, true) := by
    decide +kernel
  obtain ⟨⟨outcome, scanned, again⟩, _⟩ := scan_standard_perm standard
    (fun state member => Option.isNone_iff_eq_none.mp (plain state member)) distinct
    (List.reverse_perm standardStates) true
    { text := "schema:a.1 audit:1718409600000".toList } 0
  rw [scanned] at computed
  obtain ⟨ids, skipped⟩ := Prod.mk.inj (Option.some.inj computed)
  obtain ⟨unmatched, accepted⟩ := Prod.mk.inj skipped
  exact ⟨outcome, scanned, again, ids, unmatched, accepted⟩

end Scan

end ProtocolGate
