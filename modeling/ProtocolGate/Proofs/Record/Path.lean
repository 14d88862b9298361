import Mathlib.Data.List.Nodup
import ProtocolGate.Record.Chain

/-!
The links of a chain. What an append does to them, and what walks and clears do along a path of
links: an append lengthens the path to the tail by one record or cuts it short there, a walk follows
it, and a clear removes it.
-/

namespace ProtocolGate.Chain

/-- Links that lead from a first record to a last one, through the listed records. -/
inductive Path (next : Nat → Option Nat) : Nat → List Nat → Nat → Prop
  | here (index) : Path next index [index] index
  | step {first second order last} : next first = some second → Path next second order last →
      Path next first (first :: order) last

variable {chain : Chain} {first last index : Nat} {order : List Nat}

theorem next?_lt {second : Nat} (linked : chain.next? first = some second) :
    first < chain.links.length := by
  unfold next? at linked
  by_cases known : first < chain.links.length
  · exact known
  · simp [known] at linked

theorem next?_link (known : index < chain.links.length) (next : Option Nat) (other : Nat) :
    (chain.link index next).next? other = if other = index then next else chain.next? other := by
  simp only [next?, link, List.getElem?_set]
  by_cases same : index = other
  · subst other
    simp [known]
  · simp [same, Ne.symm same]

theorem next?_unlink (chain : Chain) (index other : Nat) :
    (chain.link index none).next? other = if other = index then none else chain.next? other := by
  by_cases known : index < chain.links.length
  · exact next?_link known none other
  · simp only [next?, link, List.set_eq_of_length_le (Nat.not_lt.mp known)]
    by_cases same : other = index
    · subst other
      simp [known]
    · simp [same]

theorem next?_create (chain : Chain) (record : Record) :
    (chain.create record).2.next? = chain.next? := by
  funext index
  simp only [next?, create]
  by_cases old : index < chain.links.length
  · rw [List.getElem?_append_left old]
  · rw [List.getElem?_append_right (Nat.not_lt.mp old), List.getElem?_eq_none (Nat.not_lt.mp old)]
    cases index - chain.links.length <;> rfl

theorem next?_append (tailKnown : ∀ last, chain.tail = some last → last < chain.links.length)
    (index other : Nat) :
    (chain.append index).next? other =
      if chain.tail = some other then some index
      else if other = index then none
      else chain.next? other := by
  unfold append
  cases tail : chain.tail with
  | none =>
      simp only [reduceCtorEq, if_false]
      exact next?_unlink chain index other
  | some last =>
      have lastKnown : last < (chain.link index none).links.length := by
        simpa [link] using tailKnown last tail
      change ((chain.link index none).link last (some index)).next? other = _
      rw [next?_link lastKnown, next?_unlink]
      by_cases same : other = last
      · subst other
        simp
      · simp [same, Ne.symm same]

namespace Path

variable {next : Nat → Option Nat}

theorem last_mem (path : Path next first order last) : last ∈ order := by
  induction path with
  | here index => exact List.mem_singleton_self index
  | step _ _ ih => exact List.mem_cons_of_mem _ ih

theorem getLast? (path : Path next first order last) : order.getLast? = some last := by
  induction path with
  | here => rfl
  | step _ _ ih => simp [List.getLast?_cons, ih]

theorem lt_length (lastKnown : last < chain.links.length)
    (path : Path chain.next? first order last) : ∀ index ∈ order, index < chain.links.length := by
  induction path with
  | here => simpa using lastKnown
  | step linked _ ih =>
      intro index member
      rcases List.mem_cons.mp member with rfl | member
      · exact next?_lt linked
      · exact ih lastKnown index member

theorem append (lastKnown : last < chain.links.length) (tail : chain.tail = some last)
    (path : Path chain.next? first order last) (distinct : order.Nodup) (index : Nat) :
    ∃ longer, Path (chain.append index).next? first longer index ∧ longer.Nodup ∧
      (∀ other ∈ longer, other ∈ order ∨ other = index) ∧
      (index ∉ order → longer = order ++ [index]) := by
  have tailKnown : ∀ other, chain.tail = some other → other < chain.links.length := by
    intro other found
    rw [tail] at found
    obtain rfl := Option.some.inj found
    exact lastKnown
  have links := next?_append tailKnown index
  induction path with
  | here last =>
      by_cases same : index = last
      · subst index
        exact ⟨[last], .here last, List.nodup_singleton last, by simp, by simp⟩
      · have linked := links last
        rw [if_pos tail] at linked
        refine ⟨[last, index], .step linked (.here index), ?_, by simp, by simp⟩
        simp [Ne.symm same]
  | @step first second order last linked path ih =>
      obtain ⟨fresh, distinct⟩ := List.nodup_cons.mp distinct
      by_cases same : index = first
      · subst index
        exact ⟨[first], .here first, List.nodup_singleton first, by simp, by simp⟩
      · have inner : ¬ chain.tail = some first := by
          rw [tail]
          intro last
          obtain rfl := Option.some.inj last
          exact fresh path.last_mem
        obtain ⟨longer, extended, longerDistinct, among, whole⟩ := ih lastKnown tail distinct
        have kept := links first
        rw [if_neg inner, if_neg (Ne.symm same), linked] at kept
        refine ⟨first :: longer, .step kept extended, ?_, ?_, ?_⟩
        · apply List.nodup_cons.mpr
          refine ⟨fun again => ?_, longerDistinct⟩
          rcases among first again with old | appended
          · exact fresh old
          · exact same appended.symm
        · intro other member
          rcases List.mem_cons.mp member with rfl | member
          · exact .inl List.mem_cons_self
          · exact (among other member).imp_left (List.mem_cons_of_mem first)
        · intro absent
          rw [List.mem_cons, not_or] at absent
          rw [whole absent.2]
          rfl

theorem walkFrom? {rounds : Nat} (path : Path chain.next? first order last)
    (ends : chain.next? last = none) (enough : order.length ≤ rounds) :
    chain.walkFrom? rounds (some first) = some order := by
  induction path generalizing rounds with
  | here index =>
      cases rounds with
      | zero => simp at enough
      | succ rounds => simp [Chain.walkFrom?, ends]
  | step linked _ ih =>
      cases rounds with
      | zero => simp at enough
      | succ rounds =>
          have rest := ih ends (Nat.le_of_succ_le_succ enough)
          simp [Chain.walkFrom?, linked, rest]

theorem walkFrom?_circle (path : Path chain.next? first order last)
    (circle : chain.next? last = some last) (rounds : Nat) :
    chain.walkFrom? rounds (some first) = none := by
  induction path generalizing rounds with
  | here index =>
      induction rounds with
      | zero => rfl
      | succ rounds ih => simp [Chain.walkFrom?, circle, ih]
  | step linked _ ih =>
      cases rounds with
      | zero => rfl
      | succ rounds => simp [Chain.walkFrom?, linked, ih circle]

end Path

theorem walkFrom?_mono {rounds more : Nat} {start : Option Nat}
    (walked : chain.walkFrom? rounds start = some order) (enough : rounds ≤ more) :
    chain.walkFrom? more start = some order := by
  induction rounds generalizing start order more with
  | zero =>
      cases start with
      | none => cases more <;> exact walked
      | some index => contradiction
  | succ rounds ih =>
      cases more with
      | zero => omega
      | succ more =>
          cases start with
          | none => exact walked
          | some index =>
              simp only [Chain.walkFrom?, Option.map_eq_some_iff] at walked ⊢
              obtain ⟨rest, found, rfl⟩ := walked
              exact ⟨rest, ih found (by omega), rfl⟩

theorem walkFrom?_unique {rounds others : Nat} {start : Option Nat} {found : List Nat}
    (walked : chain.walkFrom? rounds start = some order)
    (again : chain.walkFrom? others start = some found) : order = found := by
  have one := walkFrom?_mono walked (Nat.le_max_left rounds others)
  rw [walkFrom?_mono again (Nat.le_max_right rounds others)] at one
  exact (Option.some.inj one).symm

theorem unlinkFrom_records (rounds : Nat) (chain : Chain) (start : Option Nat) :
    (chain.unlinkFrom rounds start).records = chain.records ∧
      (chain.unlinkFrom rounds start).links.length = chain.links.length := by
  induction rounds generalizing chain start with
  | zero => exact ⟨rfl, rfl⟩
  | succ rounds ih =>
      cases start with
      | none => exact ⟨rfl, rfl⟩
      | some index => simpa [unlinkFrom, link] using ih (chain.link index none) (chain.next? index)

theorem unlinkFrom_of_unlinked (rounds : Nat) (start : Option Nat)
    (unlinked : chain.next? index = none) : (chain.unlinkFrom rounds start).next? index = none := by
  induction rounds generalizing chain start with
  | zero => exact unlinked
  | succ rounds ih =>
      cases start with
      | none => exact unlinked
      | some other =>
          apply ih
          rw [next?_unlink, unlinked, ite_self]

/-- Removing the links from a record on removes those of a whole path, also one that runs in a
circle behind its end. -/
theorem Path.unlinkFrom {next : Nat → Option Nat} {rounds : Nat} (path : Path next first order last)
    (distinct : order.Nodup) (same : ∀ index ∈ order, chain.next? index = next index)
    (enough : order.length ≤ rounds) :
    ∀ index ∈ order, (chain.unlinkFrom rounds (some first)).next? index = none := by
  -- The links ahead are those of the path although the chain changes at each step.
  induction path generalizing chain rounds with
  | here last =>
      intro index member
      obtain rfl := List.mem_singleton.mp member
      cases rounds with
      | zero => simp at enough
      | succ rounds =>
          rw [Chain.unlinkFrom]
          apply unlinkFrom_of_unlinked
          rw [next?_unlink, if_pos rfl]
  | @step first second order last linked path ih =>
      obtain ⟨fresh, distinct⟩ := List.nodup_cons.mp distinct
      cases rounds with
      | zero => simp at enough
      | succ rounds =>
          rw [List.length_cons] at enough
          rw [Chain.unlinkFrom, same first List.mem_cons_self, linked]
          intro index member
          rcases List.mem_cons.mp member with rfl | member
          · apply unlinkFrom_of_unlinked
            rw [next?_unlink, if_pos rfl]
          · apply ih distinct ?_ (by omega) index member
            intro other inside
            have different : other ≠ first := by
              rintro rfl
              exact fresh inside
            rw [next?_unlink, if_neg different]
            exact same other (List.mem_cons_of_mem first inside)

theorem unlinkFrom_of_enough {rounds more : Nat} {start : Option Nat}
    (enough : chain.links.countP Option.isSome < rounds) (later : rounds ≤ more) :
    chain.unlinkFrom more start = chain.unlinkFrom rounds start := by
  induction rounds generalizing chain start more with
  | zero => omega
  | succ rounds ih =>
      cases more with
      | zero => omega
      | succ more =>
          cases start with
          | none => rfl
          | some index =>
              rw [unlinkFrom, unlinkFrom]
              cases linked : chain.next? index with
              | none => cases more <;> cases rounds <;> rfl
              | some second =>
                  apply ih ?_ (by omega)
                  have known := next?_lt linked
                  have leads : chain.links[index] = some second := by
                    simpa [next?, known] using linked
                  have held : 0 < chain.links.countP Option.isSome := by
                    apply List.countP_pos_iff.mpr
                    exact ⟨chain.links[index], List.getElem_mem known, by rw [leads]; rfl⟩
                  have fewer := List.countP_set (p := Option.isSome) (a := none) known
                  simp only [leads, Option.isSome_some, Option.isSome_none, if_true,
                    Bool.false_eq_true, if_false] at fewer
                  rw [link, fewer]
                  omega

end ProtocolGate.Chain
