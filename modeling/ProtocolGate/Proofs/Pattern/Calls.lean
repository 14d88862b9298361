import Mathlib.Data.List.Induction
import ProtocolGate.Fault
import ProtocolGate.Proofs.Scan.Cached

/-!
Calls of pattern engines on the store that they share. One engine counts case and the other does
not. A call uses the store for one rule at the most, so what a single use leaves intact every
interleaving of calls leaves intact, and no reply depends on the calls before it.
-/

namespace ProtocolGate.Pattern

inductive Call where
  | compile (ignoreCase : Bool) (rule : Text)
  | matchPrefix (ignoreCase : Bool) (rule text : Text)
  | matchAt (ignoreCase : Bool) (rule text : Text) (position : Int)
  | clear

inductive Reply where
  | compiled (compiled : Compiled)
  | length (length : Option Nat)
  | cleared

def report (rule : Text) (result : Except Fault α) : Except ProtocolGate.Fault α :=
  result.mapError (.ruleInvalid rule)

namespace Call

def answer : Call → Except ProtocolGate.Fault Reply
  | .compile ignoreCase rule => (report rule (Pattern.compile ignoreCase rule)).map .compiled
  | .matchPrefix ignoreCase rule text =>
    (report rule (Pattern.compile ignoreCase rule)).map fun compiled =>
      .length (compiled.matchLength? text)
  | .matchAt ignoreCase rule text position =>
    (report rule (Pattern.compile ignoreCase rule)).map fun compiled =>
      .length (compiled.matchLength? (sliceFrom text position))
  | .clear => .ok .cleared

def key? : Call → Option CacheKey
  | .compile ignoreCase rule | .matchPrefix ignoreCase rule _ | .matchAt ignoreCase rule _ _ =>
    some { rule, ignoreCase }
  | .clear => none

end Call

namespace Cache

def perform (cache : Cache) : Call → Except ProtocolGate.Fault Reply × Cache
  | .compile ignoreCase rule =>
    let (result, cache) := cache.compile ignoreCase rule
    ((report rule result).map .compiled, cache)
  | .matchPrefix ignoreCase rule text =>
    let (result, cache) := cache.matchLength? ignoreCase rule text
    ((report rule result).map .length, cache)
  | .matchAt ignoreCase rule text position =>
    let (result, cache) := cache.matchLengthAt? ignoreCase rule text position
    ((report rule result).map .length, cache)
  | .clear => (.ok .cleared, {})

def run (cache : Cache) : List Call → List (Except ProtocolGate.Fault Reply) × Cache
  | [] => ([], cache)
  | call :: later =>
    let (reply, cache) := cache.perform call
    let (replies, cache) := cache.run later
    (reply :: replies, cache)

def keys (cache : Cache) : List CacheKey :=
  cache.entries.map Prod.fst

variable {cache : Cache} {ignoreCase : Bool} {rule : Text}

/-- A use of the store finds its rule there, or compiles it and stores it, or fails. -/
theorem compile_cases (cache : Cache) (ignoreCase : Bool) (rule : Text) :
    let key : CacheKey := { rule, ignoreCase }
    let after := (cache.compile ignoreCase rule).2
    (∃ compiled, (key, compiled) ∈ cache.entries ∧
      after =
        { cache with
          entries := (key, compiled) :: cache.entries.filter (·.1 != key)
          hits := cache.hits + 1 }) ∨
    key ∉ cache.keys ∧
      ((∃ compiled, Pattern.compile ignoreCase rule = .ok compiled ∧
        after =
          { cache with
            entries := ((key, compiled) :: cache.entries).take capacity
            misses := cache.misses + 1 }) ∨
      (∃ fault, Pattern.compile ignoreCase rule = .error fault) ∧
        after = { cache with misses := cache.misses + 1 }) := by
  intro key after
  cases found : cache.entries.lookup key with
  | some compiled =>
      obtain ⟨before, rest, shape, _⟩ := List.lookup_eq_some_iff.mp found
      refine .inl ⟨compiled, by simp [shape], ?_⟩
      simp only [after, compile, key] at found ⊢
      rw [found]
  | none =>
      have absent : key ∉ cache.keys := by
        intro member
        obtain ⟨entry, listed, same⟩ := List.mem_map.mp member
        have differs := List.lookup_eq_none_iff.mp found entry listed
        simp [same] at differs
      refine .inr ⟨absent, ?_⟩
      simp only [after, compile, key] at found ⊢
      rw [found]
      cases compiles : Pattern.compile ignoreCase rule with
      | ok compiled => exact .inl ⟨compiled, rfl, rfl⟩
      | error fault => exact .inr ⟨⟨fault, rfl⟩, rfl⟩

structure Proper (cache : Cache) : Prop where
  sound : cache.Sound
  distinct : cache.keys.Nodup
  bounded : cache.entries.length ≤ capacity

theorem empty_proper : Proper {} :=
  ⟨empty_sound, List.nodup_nil, Nat.zero_le _⟩

theorem Proper.compile (proper : cache.Proper) (ignoreCase : Bool) (rule : Text) :
    (cache.compile ignoreCase rule).2.Proper := by
  refine ⟨(proper.sound.compile ignoreCase rule).2, ?_, ?_⟩
  · rcases cache.compile_cases ignoreCase rule with
      ⟨compiled, _, after⟩ | ⟨absent, ⟨compiled, _, after⟩ | ⟨_, after⟩⟩ <;> rw [after]
    · refine List.nodup_cons.mpr ⟨?_, ?_⟩
      · simp
      · exact proper.distinct.sublist (List.filter_sublist.map Prod.fst)
    · have added := List.nodup_cons.mpr ⟨absent, proper.distinct⟩
      exact added.sublist ((List.take_sublist _ _).map Prod.fst)
    · exact proper.distinct
  · rcases cache.compile_cases ignoreCase rule with
      ⟨compiled, member, after⟩ | ⟨absent, ⟨compiled, _, after⟩ | ⟨_, after⟩⟩ <;> rw [after]
    · have fewer : (cache.entries.filter (·.1 != ⟨rule, ignoreCase⟩)).length <
          cache.entries.length :=
        List.length_filter_lt_length_iff_exists.mpr ⟨_, member, by simp⟩
      exact Nat.le_trans fewer proper.bounded
    · exact List.length_take_le _ _
    · exact proper.bounded

theorem compile_count (cache : Cache) (ignoreCase : Bool) (rule : Text) :
    (cache.compile ignoreCase rule).2.hits + (cache.compile ignoreCase rule).2.misses =
      cache.hits + cache.misses + 1 := by
  rcases cache.compile_cases ignoreCase rule with
    ⟨_, _, after⟩ | ⟨_, ⟨_, _, after⟩ | ⟨_, after⟩⟩ <;> rw [after] <;> dsimp only <;> omega

theorem Sound.compile_error {fault : Fault} (sound : cache.Sound)
    (failed : Pattern.compile ignoreCase rule = .error fault) :
    (cache.compile ignoreCase rule).2.entries = cache.entries := by
  rcases cache.compile_cases ignoreCase rule with
    ⟨compiled, member, _⟩ | ⟨_, ⟨compiled, compiles, _⟩ | ⟨_, after⟩⟩
  · have compiles := sound _ member
    rw [failed] at compiles
    contradiction
  · rw [failed] at compiles
    contradiction
  · rw [after]

theorem perform_store (cache : Cache) (call : Call) :
    (cache.perform call).2 =
      match call.key? with
      | some key => (cache.compile key.ignoreCase key.rule).2
      | none => {} := by
  cases call <;> rfl

theorem Sound.perform (sound : cache.Sound) (call : Call) :
    (cache.perform call).1 = call.answer := by
  have mapped (ignoreCase : Bool) (rule text : Text) :
      (report rule (cache.matchLength? ignoreCase rule text).1).map Reply.length =
        (report rule (Pattern.compile ignoreCase rule)).map fun compiled =>
          .length (compiled.matchLength? text) := by
    rw [(sound.matchLength? ignoreCase rule text).1]
    cases Pattern.compile ignoreCase rule <;> rfl
  cases call with
  | compile ignoreCase rule => simp only [Cache.perform, Call.answer, sound.compile]
  | matchPrefix ignoreCase rule text => exact mapped ignoreCase rule text
  | matchAt ignoreCase rule text position => exact mapped ignoreCase rule (sliceFrom text position)
  | clear => rfl

theorem Proper.perform (proper : cache.Proper) (call : Call) : (cache.perform call).2.Proper := by
  rw [perform_store]
  split
  · exact proper.compile _ _
  · exact empty_proper

theorem report_error {wrap : Compiled → Reply} {result : Except Fault Compiled}
    {fault : ProtocolGate.Fault} (failed : (report rule result).map wrap = .error fault) :
    ∃ cause, result = .error cause ∧ fault = .ruleInvalid rule cause := by
  cases result with
  | ok compiled => contradiction
  | error cause => exact ⟨cause, rfl, (Except.error.inj failed).symm⟩

theorem answer_error {call : Call} {fault : ProtocolGate.Fault}
    (failed : call.answer = .error fault) :
    ∃ key cause, call.key? = some key ∧
      Pattern.compile key.ignoreCase key.rule = .error cause ∧
      fault = .ruleInvalid key.rule cause := by
  cases call with
  | compile ignoreCase rule | matchPrefix ignoreCase rule | matchAt ignoreCase rule =>
      obtain ⟨cause, refused, same⟩ := report_error failed
      exact ⟨{ rule, ignoreCase }, cause, rfl, refused, same⟩
  | clear => contradiction

theorem Sound.perform_error (sound : cache.Sound) {call : Call} {fault : ProtocolGate.Fault}
    (failed : (cache.perform call).1 = .error fault) :
    (cache.perform call).2.entries = cache.entries := by
  rw [sound.perform] at failed
  obtain ⟨key, cause, looked, refused, _⟩ := answer_error failed
  rw [perform_store, looked]
  exact sound.compile_error refused

theorem run_append (cache : Cache) (earlier later : List Call) :
    cache.run (earlier ++ later) =
      ((cache.run earlier).1 ++ ((cache.run earlier).2.run later).1,
        ((cache.run earlier).2.run later).2) := by
  induction earlier generalizing cache with
  | nil => rfl
  | cons call earlier ih => simp only [List.cons_append, run, ih]

theorem Proper.run (proper : cache.Proper) (calls : List Call) :
    (cache.run calls).1 = calls.map Call.answer ∧ (cache.run calls).2.Proper := by
  induction calls generalizing cache with
  | nil => exact ⟨rfl, proper⟩
  | cons call later ih =>
      obtain ⟨replies, after⟩ := ih (proper.perform call)
      refine ⟨?_, after⟩
      rw [Cache.run, List.map_cons, ← proper.sound.perform call, ← replies]

/-- What calls make of a store. -/
def Becomes (cache after : Cache) : Prop :=
  ∃ calls, after = (cache.run calls).2

theorem Becomes.refl (cache : Cache) : cache.Becomes cache :=
  ⟨[], rfl⟩

theorem Becomes.trans {middle after : Cache} (first : cache.Becomes middle)
    (second : middle.Becomes after) : cache.Becomes after := by
  obtain ⟨earlier, rfl⟩ := first
  obtain ⟨later, rfl⟩ := second
  exact ⟨earlier ++ later, by rw [run_append]⟩

theorem becomes_perform (cache : Cache) (call : Call) : cache.Becomes (cache.perform call).2 :=
  ⟨[call], rfl⟩

theorem Becomes.proper {after : Cache} (becomes : cache.Becomes after) (proper : cache.Proper) :
    after.Proper := by
  obtain ⟨calls, rfl⟩ := becomes
  exact (proper.run calls).2

def usesSinceClear (calls : List Call) : ℕ :=
  (calls.reverse.takeWhile fun call => call.key?.isSome).length

theorem run_count (calls : List Call) :
    (run {} calls).2.hits + (run {} calls).2.misses = usesSinceClear calls := by
  -- The latest call comes first where the calls since the last clear are counted.
  induction calls using List.reverseRecOn with
  | nil => rfl
  | append_singleton calls call ih =>
      rw [run_append, usesSinceClear, List.reverse_append, List.reverse_singleton,
        List.singleton_append, List.takeWhile_cons]
      simp only [run, perform_store]
      cases call.key? with
      | none => rfl
      | some key =>
          simp only [Option.isSome_some, if_true, List.length_cons]
          rw [← usesSinceClear, ← ih]
          exact compile_count _ _ _

end Cache

end ProtocolGate.Pattern
