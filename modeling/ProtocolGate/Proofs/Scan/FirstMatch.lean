import ProtocolGate.Proofs.Pattern.Compiled
import ProtocolGate.Scan

/-!
The first match at a place. Among states whose rules compile and whose validators return, the search
for a match always returns, and what it finds is what the first state that takes anything takes.
-/

namespace ProtocolGate.Scan

/-- A state takes a part of this length from the head of a text: its rule matches that part, which
is not empty, and its validator accepts it, if there is one. -/
structure Takes (ignoreCase : Bool) (state : State) (text : Text) (length : Nat) : Prop where
  nonempty : 0 < length
  matched : ∃ compiled, Pattern.compile ignoreCase state.rule = .ok compiled ∧
    compiled.matchLength? text = some length
  accepted : ∀ validator, state.validator = some validator →
    validator (text.take length) = .ok true

/-- A state takes a part of a text, and no state before it takes any. -/
def FirstTakes (ignoreCase : Bool) (states : List State) (text : Text) (state : State)
    (length : Nat) : Prop :=
  ∃ earlier later, states = earlier ++ state :: later ∧ Takes ignoreCase state text length ∧
    ∀ other ∈ earlier, ∀ length, ¬ Takes ignoreCase other text length

structure Ready (ignoreCase : Bool) (states : List State) : Prop where
  compiles : ∀ state ∈ states, ∃ compiled, Pattern.compile ignoreCase state.rule = .ok compiled
  returns : ∀ state ∈ states, ∀ validator, state.validator = some validator →
    ∀ content, ∃ accepted, validator content = .ok accepted

variable {ignoreCase : Bool} {states others : List State} {first state other : State} {text : Text}

theorem Takes.length_le {length : Nat} (takes : Takes ignoreCase state text length) :
    length ≤ text.length := by
  obtain ⟨compiled, _, matched⟩ := takes.matched
  exact Pattern.Compiled.matchLength_le matched

theorem Takes.matchLength_eq {length : Nat} {compiled : Pattern.Compiled}
    (takes : Takes ignoreCase state text length)
    (compiles : Pattern.compile ignoreCase state.rule = .ok compiled) :
    compiled.matchLength? text = some length := by
  obtain ⟨again, compilesAgain, matched⟩ := takes.matched
  rw [compiles] at compilesAgain
  obtain rfl := Except.ok.inj compilesAgain
  exact matched

theorem Takes.length_eq {left right : Nat} (takes : Takes ignoreCase state text left)
    (again : Takes ignoreCase state text right) : left = right := by
  obtain ⟨compiled, compiles, matched⟩ := takes.matched
  rw [again.matchLength_eq compiles] at matched
  exact (Option.some.inj matched).symm

theorem FirstTakes.takes {length : Nat} (found : FirstTakes ignoreCase states text state length) :
    Takes ignoreCase state text length := by
  obtain ⟨_, _, _, takes, _⟩ := found
  exact takes

theorem not_firstTakes_nil {length : Nat} : ¬ FirstTakes ignoreCase [] text state length := by
  rintro ⟨earlier, later, shape, _⟩
  simp at shape

theorem firstTakes_cons_iff {length : Nat} :
    FirstTakes ignoreCase (first :: others) text state length ↔
      (state = first ∧ Takes ignoreCase first text length) ∨
      ((∀ length, ¬ Takes ignoreCase first text length) ∧
        FirstTakes ignoreCase others text state length) := by
  constructor
  · rintro ⟨earlier, later, shape, takes, unmatched⟩
    cases earlier with
    | nil =>
        obtain ⟨rfl, rfl⟩ := List.cons.inj shape
        exact .inl ⟨rfl, takes⟩
    | cons head earlier =>
        obtain ⟨rfl, rfl⟩ := List.cons.inj shape
        exact .inr ⟨unmatched _ (by simp), earlier, later, rfl, takes,
          fun other member => unmatched other (by simp [member])⟩
  · rintro (⟨rfl, takes⟩ | ⟨passes, earlier, later, rfl, takes, unmatched⟩)
    · exact ⟨[], others, rfl, takes, by simp⟩
    · refine ⟨first :: earlier, later, rfl, takes, fun other member => ?_⟩
      rcases List.mem_cons.mp member with rfl | member
      · exact passes
      · exact unmatched other member

theorem FirstTakes.unique {left right : Nat}
    (found : FirstTakes ignoreCase states text state left)
    (again : FirstTakes ignoreCase states text other right) : state = other ∧ left = right := by
  induction states with
  | nil => exact absurd found not_firstTakes_nil
  | cons first others ih =>
      rw [firstTakes_cons_iff] at found again
      rcases found with ⟨rfl, takes⟩ | ⟨passes, found⟩ <;>
        rcases again with ⟨rfl, takesAgain⟩ | ⟨passesAgain, again⟩
      · exact ⟨rfl, takes.length_eq takesAgain⟩
      · exact absurd takes (passesAgain _)
      · exact absurd takesAgain (passes _)
      · exact ih found again

theorem exists_firstTakes {length : Nat} (member : state ∈ states)
    (takes : Takes ignoreCase state text length) :
    ∃ first length, FirstTakes ignoreCase states text first length := by
  induction states with
  | nil => simp at member
  | cons head others ih =>
      by_cases passes : ∀ length, ¬ Takes ignoreCase head text length
      · rcases List.mem_cons.mp member with rfl | member
        · exact absurd takes (passes _)
        · obtain ⟨first, length, found⟩ := ih member
          exact ⟨first, length, firstTakes_cons_iff.mpr (.inr ⟨passes, found⟩)⟩
      · simp only [Classical.not_forall, Classical.not_not] at passes
        obtain ⟨length, takes⟩ := passes
        exact ⟨head, length, firstTakes_cons_iff.mpr (.inl ⟨rfl, takes⟩)⟩

theorem none_takes_iff : (∀ state ∈ states, ∀ length, ¬ Takes ignoreCase state text length) ↔
    ∀ state length, ¬ FirstTakes ignoreCase states text state length := by
  constructor
  · rintro unmatched state length ⟨earlier, later, rfl, takes, _⟩
    exact unmatched state (by simp) length takes
  · intro unmatched state member length takes
    obtain ⟨first, length, found⟩ := exists_firstTakes member takes
    exact unmatched first length found

theorem Ready.tail (ready : Ready ignoreCase (first :: others)) : Ready ignoreCase others :=
  ⟨fun state member => ready.compiles state (by simp [member]),
    fun state member => ready.returns state (by simp [member])⟩

theorem Ready.verdict (ready : Ready ignoreCase states) (member : state ∈ states)
    (content : Text) : ∃ accepted, Scan.verdict state content = .ok accepted ∧
      (accepted = true ↔
        ∀ validator, state.validator = some validator → validator content = .ok true) := by
  unfold Scan.verdict
  cases given : state.validator with
  | none => exact ⟨true, rfl, by simp⟩
  | some validator =>
      obtain ⟨accepted, returned⟩ := ready.returns state member validator given content
      refine ⟨accepted, by simp only [returned], ?_⟩
      simp [returned]

theorem firstMatch_cons (ready : Ready ignoreCase (first :: others)) (text : Text) :
    (∃ length, Takes ignoreCase first text length ∧
      firstMatch (candidates ignoreCase (first :: others)) text = .ok (some (first, length))) ∨
    ((∀ length, ¬ Takes ignoreCase first text length) ∧
      firstMatch (candidates ignoreCase (first :: others)) text =
        firstMatch (candidates ignoreCase others) text) := by
  obtain ⟨compiled, compiles⟩ := ready.compiles first (by simp)
  simp only [candidates, List.map_cons, firstMatch, compiles]
  cases matched : compiled.matchLength? text with
  | none =>
      refine .inr ⟨fun length takes => ?_, rfl⟩
      rw [takes.matchLength_eq compiles] at matched
      contradiction
  | some length =>
      have takes_only {size : Nat} (takes : Takes ignoreCase first text size) : size = length := by
        rw [takes.matchLength_eq compiles] at matched
        exact Option.some.inj matched
      cases length with
      | zero =>
          refine .inr ⟨fun size takes => ?_, rfl⟩
          have positive := takes.nonempty
          have empty := takes_only takes
          omega
      | succ length =>
          obtain ⟨accepted, judged, accepts⟩ :=
            ready.verdict List.mem_cons_self (text.take (length + 1))
          simp only [judged]
          cases accepted with
          | true =>
              have nonempty : 0 < length + 1 := by omega
              exact .inl ⟨_, ⟨nonempty, ⟨compiled, compiles, matched⟩, accepts.mp rfl⟩, rfl⟩
          | false =>
              refine .inr ⟨fun size takes => ?_, rfl⟩
              obtain rfl := takes_only takes
              have accepted := accepts.mpr takes.accepted
              contradiction

theorem firstMatch_spec (ready : Ready ignoreCase states) (text : Text) :
    ∃ found, firstMatch (candidates ignoreCase states) text = .ok found ∧
      ∀ state length, found = some (state, length) ↔
        FirstTakes ignoreCase states text state length := by
  induction states with
  | nil => exact ⟨none, rfl, by simp [not_firstTakes_nil]⟩
  | cons first others ih =>
      rcases firstMatch_cons ready text with ⟨length, takes, searched⟩ | ⟨passes, searched⟩
      · have found : FirstTakes ignoreCase (first :: others) text first length :=
          firstTakes_cons_iff.mpr (.inl ⟨rfl, takes⟩)
        refine ⟨_, searched, fun state size => ?_⟩
        constructor
        · intro same
          obtain ⟨rfl, rfl⟩ := Prod.mk.inj (Option.some.inj same)
          exact found
        · intro again
          obtain ⟨rfl, rfl⟩ := found.unique again
          rfl
      · obtain ⟨found, later, spec⟩ := ih ready.tail
        refine ⟨found, searched.trans later, fun state length => ?_⟩
        rw [spec, firstTakes_cons_iff]
        constructor
        · intro takes
          exact .inr ⟨passes, takes⟩
        · rintro (⟨_, takes⟩ | ⟨_, takes⟩)
          · exact absurd takes (passes _)
          · exact takes

end ProtocolGate.Scan
