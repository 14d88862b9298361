import ProtocolGate.Pattern.Matching

/-!
Compiled rules. Whatever a rule does on its way, back-references, look-arounds and repetitions
included, it goes on only from places of the text it was given, so its match is a prefix of that
text.
-/

namespace ProtocolGate

theorem eq_ok_of_toOption {result : Except ε α} {value : α}
    (answered : result.toOption = some value) : result = .ok value := by
  cases result with
  | error failure => contradiction
  | ok given => exact congrArg Except.ok (Option.some.inj answered)

namespace Pattern

theorem exists_compiled {ignoreCase : Bool} {rule : Text}
    (succeeded : (compile ignoreCase rule).isOk = true) :
    ∃ compiled, compile ignoreCase rule = .ok compiled := by
  generalize compile ignoreCase rule = result at succeeded ⊢
  cases result with
  | ok compiled => exact ⟨compiled, rfl⟩
  | error fault => simp [Except.isOk, Except.toBool] at succeeded

structure Cursor.Within (text : Text) (cursor : Cursor) : Prop where
  split : cursor.before.reverse ++ cursor.rest = text
  position : cursor.position = cursor.before.length

def Continuation.Reached (goOn : Continuation) (text : Text) (result : Cursor) : Prop :=
  ∃ after : Cursor, after.Within text ∧ goOn after = some result

/-- A runner goes on only from places of the text it was started in. -/
def Runner.Stays (runner : Runner) : Prop :=
  ∀ text cursor goOn result, cursor.Within text → runner cursor goOn = some result →
    Continuation.Reached goOn text result

namespace Cursor.Within

theorem atHead (text : Text) : (Cursor.atHead text).Within text :=
  ⟨rfl, rfl⟩

theorem position_le {text : Text} {cursor : Cursor} (within : cursor.Within text) :
    cursor.position ≤ text.length := by
  have size := congrArg List.length within.split
  simp only [List.length_append, List.length_reverse] at size
  rw [within.position]
  omega

theorem withCaptures {text : Text} {cursor : Cursor} (within : cursor.Within text)
    (captures : List (Nat × Capture)) : { cursor with captures }.Within text :=
  ⟨within.split, within.position⟩

theorem step? {text : Text} {cursor after : Cursor} {test : Char → Bool}
    (within : cursor.Within text) (stepped : cursor.step? test = some after) :
    after.Within text := by
  unfold Cursor.step? at stepped
  split at stepped
  · contradiction
  · rename_i c rest shape
    split at stepped
    · obtain rfl := Option.some.inj stepped
      refine ⟨?_, ?_⟩
      · rw [← within.split, shape]
        simp
      · simp [within.position]
    · contradiction

theorem back? {text : Text} {count : Nat} {cursor after : Cursor}
    (within : cursor.Within text) (went : cursor.back? count = some after) :
    after.Within text := by
  induction count generalizing cursor with
  | zero =>
      obtain rfl := Option.some.inj went
      exact within
  | succ count ih =>
      unfold Cursor.back? at went
      split at went
      · contradiction
      · rename_i c before shape
        refine ih ⟨?_, ?_⟩ went
        · rw [← within.split, shape]
          simp
        · simp [within.position, shape]

theorem closeCapture {text : Text} {cursor : Cursor} (within : cursor.Within text)
    (index : Nat) : (cursor.closeCapture index).Within text := by
  unfold Cursor.closeCapture
  split
  · exact within
  · exact within.withCaptures _

theorem readSame? {text expected : Text} {flags : Flags} {cursor after : Cursor}
    (within : cursor.Within text) (read : cursor.readSame? flags expected = some after) :
    after.Within text := by
  induction expected generalizing cursor with
  | nil =>
      obtain rfl := Option.some.inj read
      exact within
  | cons c more ih =>
      simp only [Cursor.readSame?, Option.bind_eq_bind, Option.bind_eq_some_iff] at read
      obtain ⟨next, stepped, later⟩ := read
      exact ih (within.step? stepped) later

end Cursor.Within

theorem optionalRounds_cases {preferMore : Bool} {round : Runner} {goOn : Continuation} {fuel : Nat}
    {most : Option Nat} {cursor result : Cursor}
    (matched : optionalRounds preferMore round goOn (fuel + 1) most cursor = some result) :
    goOn cursor = some result ∨
      (round cursor fun after =>
        if after.position = cursor.position then goOn after
        else optionalRounds preferMore round goOn fuel (most.map (· - 1)) after) = some result := by
  have allowed {next : Option Cursor}
      (more : (if most = some 0 then none else next) = some result) : next = some result := by
    split at more
    · contradiction
    · exact more
  cases preferMore with
  | true =>
      simp only [optionalRounds, if_true] at matched
      split at matched
      · rename_i found more
        rw [matched] at more
        exact .inr (allowed more)
      · exact .inl matched
  | false =>
      simp only [optionalRounds, Bool.false_eq_true, if_false] at matched
      split at matched
      · rename_i found ended
        rw [matched] at ended
        exact .inl ended
      · exact .inr (allowed matched)

namespace Runner.Stays

variable {round : Runner} {text : Text} {goOn : Continuation} {result : Cursor}

theorem requiredRounds (stays : round.Stays) {count : Nat} {cursor : Cursor}
    (within : cursor.Within text)
    (matched : Pattern.requiredRounds round goOn count cursor = some result) :
    goOn.Reached text result := by
  induction count generalizing cursor with
  | zero => exact ⟨cursor, within, matched⟩
  | succ count ih =>
      obtain ⟨after, afterWithin, later⟩ := stays _ _ _ _ within matched
      exact ih afterWithin later

theorem optionalRounds (stays : round.Stays) {preferMore : Bool} {fuel : Nat} {most : Option Nat}
    {cursor : Cursor} (within : cursor.Within text)
    (matched : Pattern.optionalRounds preferMore round goOn fuel most cursor = some result) :
    goOn.Reached text result := by
  induction fuel generalizing most cursor with
  | zero => exact ⟨cursor, within, matched⟩
  | succ fuel ih =>
      rcases optionalRounds_cases matched with ended | again
      · exact ⟨cursor, within, ended⟩
      -- What follows the round is the repetition itself with less fuel, or the end of it.
      · obtain ⟨after, afterWithin, later⟩ := stays _ _ _ _ within again
        dsimp only at later
        split at later
        · exact ⟨after, afterWithin, later⟩
        · exact ih afterWithin later

theorem rounds (stays : round.Stays) (preferMore : Bool) (least : Nat) (most : Option Nat) :
    (Pattern.rounds preferMore round least most).Stays := by
  intro text cursor goOn result within matched
  obtain ⟨after, afterWithin, later⟩ := stays.requiredRounds within matched
  exact stays.optionalRounds afterWithin later

theorem commit (stays : round.Stays) : round.commit.Stays := by
  intro text cursor goOn result within matched
  simp only [Runner.commit, Option.bind_eq_some_iff] at matched
  obtain ⟨found, ran, later⟩ := matched
  obtain ⟨after, afterWithin, same⟩ := stays _ _ _ _ within ran
  obtain rfl := Option.some.inj same
  exact ⟨after, afterWithin, later⟩

end Runner.Stays

theorem Node.run_stays (node : Node) (flags : Flags) : (node.run flags).Stays := by
  induction node generalizing flags with
  | empty =>
      intro text cursor goOn result within matched
      exact ⟨cursor, within, matched⟩
  | char test =>
      intro text cursor goOn result within matched
      simp only [Node.run, Option.bind_eq_some_iff] at matched
      obtain ⟨after, stepped, later⟩ := matched
      exact ⟨after, within.step? stepped, later⟩
  | anchor place =>
      intro text cursor goOn result within matched
      simp only [Node.run] at matched
      split at matched
      · exact ⟨cursor, within, matched⟩
      · contradiction
  | group index body ih =>
      intro text cursor goOn result within matched
      obtain ⟨after, afterWithin, later⟩ := ih flags _ _ _ _ (within.withCaptures _) matched
      exact ⟨_, afterWithin.closeCapture index, later⟩
  | «scoped» added removed body ih => exact ih _
  | atomic body ih => exact (ih flags).commit
  | reference index =>
      intro text cursor goOn result within matched
      simp only [Node.run, Option.bind_eq_bind, Option.bind_eq_some_iff] at matched
      obtain ⟨captured, _, after, read, later⟩ := matched
      exact ⟨after, within.readSame? read, later⟩
  | condition index present absent present_ih absent_ih =>
      intro text cursor goOn result within matched
      simp only [Node.run] at matched
      split at matched
      · exact present_ih flags _ _ _ _ within matched
      · exact absent_ih flags _ _ _ _ within matched
  | lookAhead wanted body =>
      intro text cursor goOn result within matched
      simp only [Node.run] at matched
      split at matched <;> split at matched
      · exact ⟨_, within.withCaptures _, matched⟩
      · contradiction
      · contradiction
      · exact ⟨cursor, within, matched⟩
  | lookBehind width wanted body =>
      intro text cursor goOn result within matched
      simp only [Node.run] at matched
      split at matched <;> split at matched
      · exact ⟨_, within.withCaptures _, matched⟩
      · contradiction
      · contradiction
      · exact ⟨cursor, within, matched⟩
  | repeated style least most body ih =>
      cases style with
      | greedy => exact (ih flags).rounds true least most
      | lazy => exact (ih flags).rounds false least most
      | possessive => exact ((ih flags).commit.rounds true least most).commit
  | sequence first rest first_ih rest_ih =>
      intro text cursor goOn result within matched
      obtain ⟨after, afterWithin, later⟩ := first_ih flags _ _ _ _ within matched
      exact rest_ih flags _ _ _ _ afterWithin later
  | choice first rest first_ih rest_ih =>
      intro text cursor goOn result within matched
      simp only [Node.run] at matched
      split at matched
      · rename_i found ran
        rw [matched] at ran
        exact first_ih flags _ _ _ _ within ran
      · exact rest_ih flags _ _ _ _ within matched

theorem Compiled.matchLength_le {compiled : Compiled} {text : Text} {length : Nat}
    (matched : compiled.matchLength? text = some length) : length ≤ text.length := by
  simp only [Compiled.matchLength?, Node.matchLength?, Option.map_eq_some_iff] at matched
  obtain ⟨found, ran, rfl⟩ := matched
  obtain ⟨after, within, same⟩ :=
    compiled.node.run_stays compiled.flags _ _ _ _ (.atHead text) ran
  obtain rfl := Option.some.inj same
  exact within.position_le

end Pattern

end ProtocolGate
