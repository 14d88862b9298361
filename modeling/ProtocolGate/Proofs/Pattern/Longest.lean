import Mathlib.Computability.Language
import ProtocolGate.Pattern.Matching

/-!
Longest matches. A greedy repetition of a single-character test takes as many characters as it can,
and gives some back only if what follows does not match after them. Where nothing that follows can
start with a character that passes the test, giving back never helps, so the first way that matches
is the longest one, and it is found whenever there is a match at all.
-/

namespace ProtocolGate.Pattern

open scoped Computability

/-- A beginning of a text that is in a language, with no longer one in it. -/
structure LongestPrefix (language : Language Char) (text found : Text) : Prop where
  begins : found <+: text
  member : found ∈ language
  longest : ∀ other, other <+: text → other ∈ language → other.length ≤ found.length

def LongestLength (language : Language Char) (text : Text) : Option Nat → Prop
  | some length => ∃ found, LongestPrefix language text found ∧ found.length = length
  | none => ∀ other, other <+: text → other ∉ language

theorem LongestLength.take_mem {language : Language Char} {text : Text} {length : Nat}
    (longest : LongestLength language text (some length)) : text.take length ∈ language := by
  obtain ⟨found, longest, rfl⟩ := longest
  rw [← List.prefix_iff_eq_take.mp longest.begins]
  exact longest.member

def single (test : Char → Bool) : Language Char :=
  {text | ∃ c, test c = true ∧ text = [c]}

theorem mem_single_mul {test : Char → Bool} {language : Language Char} {text : Text} :
    text ∈ single test * language ↔
      ∃ c rest, text = c :: rest ∧ test c = true ∧ rest ∈ language := by
  rw [Language.mem_mul]
  constructor
  · rintro ⟨_, ⟨c, passes, rfl⟩, rest, member, rfl⟩
    exact ⟨c, rest, rfl, passes, member⟩
  · rintro ⟨c, rest, rfl, passes, member⟩
    exact ⟨[c], ⟨c, passes, rfl⟩, rest, member, rfl⟩

theorem kstar_mul_eq (repeated last : Language Char) :
    repeated∗ * last = repeated * (repeated∗ * last) + last := by
  calc repeated∗ * last
      = (1 + repeated * repeated∗) * last := by rw [Language.one_add_self_mul_kstar_eq_kstar]
    _ = repeated * (repeated∗ * last) + last := by rw [add_mul, one_mul, mul_assoc, add_comm]

/-- A run from a place ends behind the longest text of a language there, and fails where no text of
the language is. -/
def Finds (language : Language Char) (cursor : Cursor) : Option Cursor → Prop
  | some after =>
    ∃ found, LongestPrefix language cursor.rest found ∧
      after.position = cursor.position + found.length
  | none => ∀ other, other <+: cursor.rest → other ∉ language

def Continuation.Decides (goOn : Continuation) (language : Language Char) : Prop :=
  ∀ cursor, Finds language cursor (goOn cursor)

theorem some_decides : Continuation.Decides some 1 := by
  intro cursor
  refine ⟨[], ⟨List.nil_prefix, Language.nil_mem_one, ?_⟩, rfl⟩
  intro other _ member
  rw [(Language.mem_one other).mp member]

section Step

variable {test : Char → Bool} {language : Language Char} {cursor : Cursor} {goOn : Continuation}

theorem Cursor.step?_eq_some {after : Cursor} (stepped : cursor.step? test = some after) :
    ∃ c, cursor.rest = c :: after.rest ∧ test c = true ∧
      after.position = cursor.position + 1 := by
  unfold Cursor.step? at stepped
  split at stepped
  · contradiction
  · rename_i c rest shape
    split at stepped
    · rename_i passes
      obtain rfl := Option.some.inj stepped
      exact ⟨c, shape, passes, rfl⟩
    · contradiction

theorem Cursor.step?_eq_none (stopped : cursor.step? test = none) {c : Char} {rest : Text}
    (begins : c :: rest <+: cursor.rest) : test c = false := by
  obtain ⟨others, shape⟩ := begins
  rw [List.cons_append] at shape
  simp only [Cursor.step?, ← shape] at stopped
  split at stopped
  · contradiction
  · rename_i refused
    exact Bool.eq_false_iff.mpr refused

theorem Finds.step
    (later : ∀ after, cursor.step? test = some after → Finds language after (goOn after)) :
    Finds (single test * language) cursor ((cursor.step? test).bind goOn) := by
  cases stepped : cursor.step? test with
  | none =>
      intro other begins member
      obtain ⟨c, rest, rfl, passes, _⟩ := mem_single_mul.mp member
      rw [Cursor.step?_eq_none stepped begins] at passes
      contradiction
  | some after =>
      have next := later after stepped
      obtain ⟨c, shape, passes, moved⟩ := Cursor.step?_eq_some stepped
      rw [Option.bind_some]
      cases ran : goOn after with
      | none =>
          rw [ran] at next
          intro other begins member
          obtain ⟨d, rest, rfl, _, inside⟩ := mem_single_mul.mp member
          rw [shape, List.cons_prefix_cons] at begins
          exact next rest begins.2 inside
      | some final =>
          rw [ran] at next
          obtain ⟨found, longest, ended⟩ := next
          refine ⟨c :: found, ⟨?_, ?_, ?_⟩, ?_⟩
          · rw [shape, List.cons_prefix_cons]
            exact ⟨rfl, longest.begins⟩
          · exact mem_single_mul.mpr ⟨c, found, rfl, passes, longest.member⟩
          · intro other begins member
            obtain ⟨d, rest, rfl, _, inside⟩ := mem_single_mul.mp member
            rw [shape, List.cons_prefix_cons] at begins
            exact Nat.succ_le_succ (longest.longest rest begins.2 inside)
          · rw [ended, moved, List.length_cons]
            omega

end Step

section Rounds

variable {test : Char → Bool} {language : Language Char} {goOn : Continuation}

def reading (test : Char → Bool) : Runner :=
  fun cursor goOn => (cursor.step? test).bind goOn

theorem requiredRounds_decides (decides : goOn.Decides language) (count : Nat) :
    (requiredRounds (reading test) goOn count).Decides (single test ^ count * language) := by
  induction count with
  | zero =>
      rw [pow_zero, one_mul]
      exact decides
  | succ count ih =>
      rw [pow_succ', mul_assoc]
      intro cursor
      exact Finds.step fun after _ => ih after

def Apart (test : Char → Bool) (language : Language Char) : Prop :=
  ∀ c rest, c :: rest ∈ language → test c = false

theorem optionalRounds_finds (decides : goOn.Decides language) (apart : Apart test language)
    {fuel : Nat} {cursor : Cursor} (enough : cursor.rest.length < fuel) :
    Finds ((single test)∗ * language) cursor
      (optionalRounds true (reading test) goOn fuel none cursor) := by
  -- A round reads one character, so the fuel outlasts the text.
  induction fuel generalizing cursor with
  | zero => omega
  | succ fuel ih =>
      have stopping := decides cursor
      have again : Finds (single test * ((single test)∗ * language)) cursor
          (reading test cursor fun after =>
            if after.position = cursor.position then goOn after
            else optionalRounds true (reading test) goOn fuel none after) := by
        refine Finds.step fun after stepped => ?_
        obtain ⟨c, shape, _, moved⟩ := Cursor.step?_eq_some stepped
        rw [if_neg (by omega)]
        rw [shape, List.length_cons] at enough
        exact ih (by omega)
      rw [kstar_mul_eq]
      simp only [optionalRounds, if_true, reduceCtorEq, if_false, Option.map_none]
      split
      · rename_i after ran
        rw [ran] at again
        obtain ⟨found, longest, ended⟩ := again
        refine ⟨found, ⟨longest.begins, .inl longest.member, ?_⟩, ended⟩
        rintro other begins (member | member)
        · exact longest.longest other begins member
        -- Stopping here would have to read the character that the round has read.
        · obtain ⟨c, rest, rfl, passes, _⟩ := mem_single_mul.mp longest.member
          cases other with
          | nil => exact Nat.zero_le _
          | cons d tail =>
              obtain ⟨_, shape⟩ := longest.begins
              rw [← shape, List.cons_append, List.cons_prefix_cons] at begins
              rw [← begins.1, apart d tail member] at passes
              contradiction
      · rename_i ran
        rw [ran] at again
        cases ended : goOn cursor with
        | none =>
            rw [ended] at stopping
            rintro other begins (member | member)
            · exact again other begins member
            · exact stopping other begins member
        | some after =>
            rw [ended] at stopping
            obtain ⟨found, longest, moved⟩ := stopping
            refine ⟨found, ⟨longest.begins, .inr longest.member, ?_⟩, moved⟩
            rintro other begins (member | member)
            · exact absurd member (again other begins)
            · exact longest.longest other begins member

theorem rounds_decides (decides : goOn.Decides language) (apart : Apart test language)
    (least : Nat) :
    Continuation.Decides (fun cursor => rounds true (reading test) least none cursor goOn)
      (single test ^ least * ((single test)∗ * language)) :=
  requiredRounds_decides
    (fun _ => optionalRounds_finds decides apart (Nat.lt_succ_self _)) least

theorem counted_decides (decides : goOn.Decides language) (count : Nat) :
    Continuation.Decides (fun cursor => rounds true (reading test) count (some count) cursor goOn)
      (single test ^ count * language) := by
  refine requiredRounds_decides (fun cursor => ?_) count
  -- All rounds are required ones.
  simp only [optionalRounds, Option.map_some, Nat.sub_self, if_true]
  exact decides cursor

end Rounds

namespace Node

variable {flags : Flags} {language : Language Char} {nodes : List Node}

def Reads (flags : Flags) (nodes : List Node) (language : Language Char) : Prop :=
  ∀ cursor, Finds language cursor ((ofSequence nodes).run flags cursor some)

theorem ofSequence_cons_run (node : Node) (rest : List Node) (cursor : Cursor)
    (goOn : Continuation) :
    (ofSequence (node :: rest)).run flags cursor goOn =
      node.run flags cursor fun after => (ofSequence rest).run flags after goOn := by
  cases rest with
  | nil => rfl
  | cons next rest => rfl

theorem reads_nil : Reads flags [] 1 :=
  some_decides

theorem Reads.char (reads : Reads flags nodes language) (test : CharTest) :
    Reads flags (.char test :: nodes) (single (test.accepts flags) * language) := by
  intro cursor
  rw [ofSequence_cons_run]
  exact Finds.step fun after _ => reads after

theorem Reads.several (reads : Reads flags nodes language) (test : CharTest)
    (apart : Apart (test.accepts flags) language) :
    Reads flags (.repeated .greedy 1 none (.char test) :: nodes)
      (single (test.accepts flags) * ((single (test.accepts flags))∗ * language)) := by
  have decides := rounds_decides reads apart 1
  rw [pow_one] at decides
  intro cursor
  rw [ofSequence_cons_run]
  exact decides cursor

theorem Reads.counted (reads : Reads flags nodes language) (test : CharTest) (count : Nat) :
    Reads flags (.repeated .greedy count (some count) (.char test) :: nodes)
      (single (test.accepts flags) ^ count * language) := by
  intro cursor
  rw [ofSequence_cons_run]
  exact counted_decides reads count cursor

theorem Reads.matchLength? (reads : Reads flags nodes language) (text : Text) :
    LongestLength language text ((ofSequence nodes).matchLength? flags text) := by
  have finds := reads (.atHead text)
  unfold Node.matchLength?
  cases ran : (ofSequence nodes).run flags (.atHead text) some with
  | none =>
      rw [ran] at finds
      exact finds
  | some after =>
      rw [ran] at finds
      obtain ⟨found, longest, ended⟩ := finds
      exact ⟨found, longest, by rw [ended]; exact (Nat.zero_add _).symm⟩

theorem lineStart_matchLength? (text : Text) :
    (ofSequence (.anchor .lineStart :: nodes)).matchLength? flags text =
      (ofSequence nodes).matchLength? flags text := by
  unfold Node.matchLength?
  rw [ofSequence_cons_run]
  rfl

end Node

end ProtocolGate.Pattern
