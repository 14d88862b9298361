import Mathlib.Data.List.Induction
import Mathlib.Data.List.Perm.Subperm
import ProtocolGate.Proofs.Record.Path

/-!
Chains under creations, appends and clears. A record may be appended while it is still linked; what
came after it is then cut off, with links that stay as they were. Still the links lead from the head
to the record appended last, through no record twice, and a walk ends there unless that record was
appended twice in a row.
-/

namespace ProtocolGate.Chain

inductive Reachable : Chain → List Nat → Prop
  | empty : Reachable {} []
  | created {chain appended} (record : Record) : Reachable chain appended →
      Reachable (chain.create record).2 appended
  | appended {chain appended index} : index < chain.records.length → Reachable chain appended →
      Reachable (chain.append index) (appended ++ [index])
  | cleared {chain appended} : Reachable chain appended → Reachable chain.clear []

variable {chain : Chain} {last index : Nat} {order appended : List Nat}

/-- What holds of a chain with the given indices appended since it was cleared. -/
structure Linked (chain : Chain) (appended : List Nat) : Prop where
  links_length : chain.links.length = chain.records.length
  known : ∀ index ∈ appended, index < chain.records.length
  head : chain.head = appended.head?
  tail : chain.tail = appended.getLast?
  size : chain.size = appended.length
  path : ∀ first last, chain.head = some first → chain.tail = some last →
    ∃ order, Path chain.next? first order last ∧ order.Nodup ∧ (appended.Nodup → order = appended)
  ending : ∀ earlier last, appended = earlier ++ [last] →
    chain.next? last = if earlier.getLast? = some last then some last else none

theorem linked_empty : Linked {} [] := by
  refine ⟨rfl, by simp, rfl, rfl, rfl, by simp, by simp⟩

theorem Linked.create (linked : chain.Linked appended) (record : Record) :
    (chain.create record).2.Linked appended := by
  refine ⟨?_, ?_, linked.head, linked.tail, linked.size, ?_, ?_⟩
  · simp [Chain.create, linked.links_length]
  · intro index member
    have old := linked.known index member
    simp only [Chain.create, List.length_append, List.length_singleton]
    omega
  · rw [next?_create]
    exact linked.path
  · rw [next?_create]
    exact linked.ending

theorem Linked.tail_lt (linked : chain.Linked appended) :
    ∀ last, chain.tail = some last → last < chain.links.length := by
  intro last tail
  rw [linked.tail] at tail
  rw [linked.links_length]
  exact linked.known last (List.mem_of_getLast? tail)

theorem append_parts (chain : Chain) (index : Nat) :
    (chain.append index).records = chain.records ∧
      (chain.append index).links.length = chain.links.length ∧
      (chain.append index).tail = some index ∧
      (chain.append index).size = chain.size + 1 ∧
      (chain.append index).head = (if chain.tail = none then some index else chain.head) := by
  unfold append
  cases chain.tail <;> simp [link]

theorem Linked.append (linked : chain.Linked appended) (known : index < chain.records.length) :
    (chain.append index).Linked (appended ++ [index]) := by
  obtain ⟨records, links, tail, size, head⟩ := chain.append_parts index
  refine ⟨?_, ?_, ?_, ?_, ?_, ?_, ?_⟩
  · rw [links, records, linked.links_length]
  · intro other member
    rw [records]
    rcases List.mem_append.mp member with old | new
    · exact linked.known other old
    · rw [List.mem_singleton.mp new]
      exact known
  · rw [head, linked.tail, linked.head]
    cases appended with
    | nil => rfl
    | cons first others => simp
  · rw [tail, List.getLast?_concat]
  · rw [size, linked.size, List.length_append, List.length_singleton]
  · intro first last headed tailed
    rw [tail] at tailed
    obtain rfl := Option.some.inj tailed
    rw [head] at headed
    cases former : chain.tail with
    | none =>
        rw [if_pos former] at headed
        obtain rfl := Option.some.inj headed
        rw [linked.tail, List.getLast?_eq_none_iff] at former
        rw [former]
        exact ⟨[index], .here index, List.nodup_singleton index, fun _ => rfl⟩
    | some last =>
        rw [former, if_neg (Option.some_ne_none last)] at headed
        obtain ⟨order, path, distinct, whole⟩ := linked.path first last headed former
        obtain ⟨longer, extended, longerDistinct, _, grows⟩ :=
          path.append (linked.tail_lt last former) former distinct index
        refine ⟨longer, extended, longerDistinct, ?_⟩
        intro all
        obtain ⟨fresh, different⟩ := List.nodup_append.mp all |>.imp_right And.right
        rw [grows, whole fresh]
        rw [whole fresh]
        intro again
        exact different index again index (List.mem_singleton_self index) rfl
  · intro earlier last shape
    obtain ⟨rfl, same⟩ := List.append_inj' shape rfl
    obtain rfl := List.singleton_inj.mp same
    rw [next?_append linked.tail_lt, linked.tail, if_pos rfl]

theorem Linked.clear (linked : chain.Linked appended) : chain.clear.Linked [] := by
  obtain ⟨records, links⟩ := unlinkFrom_records (chain.records.length + 1) chain chain.head
  refine ⟨?_, by simp, rfl, rfl, rfl, ?_, by simp⟩
  · change (chain.unlinkFrom _ chain.head).links.length = _
    rw [links, linked.links_length]
    exact congrArg List.length records.symm
  · intro first last headed
    contradiction

theorem Reachable.linked (reachable : Reachable chain appended) : chain.Linked appended := by
  induction reachable with
  | empty => exact linked_empty
  | created record _ ih => exact ih.create record
  | appended known _ ih => exact ih.append known
  | cleared _ ih => exact ih.clear

theorem Linked.path_length (linked : chain.Linked appended) (tail : chain.tail = some last)
    (path : Path chain.next? first order last) (distinct : order.Nodup) :
    order.length ≤ chain.records.length := by
  have inside : order ⊆ List.range chain.records.length := by
    intro index member
    rw [List.mem_range, ← linked.links_length]
    exact path.lt_length (linked.tail_lt last tail) index member
  simpa using (List.subperm_of_subset distinct inside).length_le

theorem Linked.exists_path {earlier : List Nat} (linked : chain.Linked (earlier ++ [last])) :
    chain.tail = some last ∧ ∃ first order, chain.head = some first ∧
      Path chain.next? first order last ∧ order.Nodup ∧
      ((earlier ++ [last]).Nodup → order = earlier ++ [last]) := by
  have tail := linked.tail
  rw [List.getLast?_concat] at tail
  have head := linked.head
  cases headed : chain.head with
  | none => simp [headed] at head
  | some first =>
      obtain ⟨order, path, distinct, whole⟩ := linked.path first last headed tail
      exact ⟨tail, first, order, rfl, path, distinct, whole⟩

theorem Linked.walks_iff {earlier : List Nat} (linked : chain.Linked (earlier ++ [last])) :
    (∃ rounds order, chain.walkFrom? rounds chain.head = some order) ↔
      earlier.getLast? ≠ some last := by
  obtain ⟨_, first, order, head, path, _⟩ := linked.exists_path
  have ending := linked.ending earlier last rfl
  rw [head]
  constructor
  · rintro ⟨rounds, found, walked⟩ twice
    rw [if_pos twice] at ending
    rw [path.walkFrom?_circle ending rounds] at walked
    contradiction
  · intro once
    rw [if_neg once] at ending
    exact ⟨order.length, order, path.walkFrom? ending (Nat.le_refl _)⟩

theorem Linked.walked {rounds : Nat} {found : List Nat} (linked : chain.Linked appended)
    (walked : chain.walkFrom? rounds chain.head = some found) :
    found.Nodup ∧ found.getLast? = chain.tail ∧ chain.walk? = some found ∧
      (appended.Nodup → found = appended) := by
  rcases List.eq_nil_or_concat appended with rfl | ⟨earlier, last, rfl⟩
  · have head : chain.head = none := linked.head
    have walk : chain.walk? = some [] := by
      unfold walk?
      rw [head]
      cases chain.records.length <;> rfl
    obtain rfl := walkFrom?_unique walked walk
    exact ⟨List.nodup_nil, linked.tail.symm, walk, fun _ => rfl⟩
  · rw [List.concat_eq_append] at linked ⊢
    have once := linked.walks_iff.mp ⟨rounds, found, walked⟩
    obtain ⟨tail, first, order, head, path, distinct, whole⟩ := linked.exists_path
    have ending := linked.ending earlier last rfl
    rw [if_neg once] at ending
    have walk : chain.walk? = some order := by
      unfold walk?
      rw [head]
      exact path.walkFrom? ending (linked.path_length tail path distinct)
    obtain rfl := walkFrom?_unique walked walk
    exact ⟨distinct, path.getLast?.trans tail.symm, walk, whole⟩

theorem Linked.walk_of_nodup (linked : chain.Linked appended) (distinct : appended.Nodup) :
    chain.walk? = some appended ∧ ∀ last, chain.tail = some last → chain.next? last = none := by
  rcases List.eq_nil_or_concat appended with rfl | ⟨earlier, last, rfl⟩
  · have head : chain.head = none := linked.head
    have tail : chain.tail = none := linked.tail
    constructor
    · unfold walk?
      rw [head]
      cases chain.records.length <;> rfl
    · simp [tail]
  · rw [List.concat_eq_append] at linked distinct ⊢
    have once : earlier.getLast? ≠ some last := by
      intro twice
      obtain ⟨_, _, apart⟩ := List.nodup_append.mp distinct
      exact apart last (List.mem_of_getLast? twice) last (List.mem_singleton_self last) rfl
    obtain ⟨rounds, found, walked⟩ := linked.walks_iff.mpr once
    obtain ⟨_, _, walk, whole⟩ := linked.walked walked
    rw [whole distinct] at walk
    refine ⟨walk, ?_⟩
    intro tail tailed
    rw [linked.exists_path.1] at tailed
    obtain rfl := Option.some.inj tailed
    rw [linked.ending earlier last rfl, if_neg once]

theorem Linked.clear_next? (linked : chain.Linked appended) (distinct : appended.Nodup) :
    ∀ index ∈ appended, chain.clear.next? index = none := by
  rcases List.eq_nil_or_concat appended with rfl | ⟨earlier, last, rfl⟩
  · simp
  · rw [List.concat_eq_append] at linked distinct ⊢
    obtain ⟨tail, first, order, head, path, orderDistinct, whole⟩ := linked.exists_path
    have short := linked.path_length tail path orderDistinct
    have unlinked := path.unlinkFrom orderDistinct (fun _ _ => rfl) (Nat.le_succ_of_le short)
    rw [whole distinct, ← head] at unlinked
    exact unlinked

theorem Linked.unlinks (linked : chain.Linked appended) {rounds : Nat}
    (enough : chain.records.length < rounds) :
    chain.unlinkFrom rounds chain.head =
      chain.unlinkFrom (chain.records.length + 1) chain.head := by
  apply unlinkFrom_of_enough ?_ enough
  have bound : chain.links.countP Option.isSome ≤ chain.links.length := List.countP_le_length
  rw [linked.links_length] at bound
  omega

/-- The walk of a chain that records were appended to ends if and only if the last append was not
one of the record that was the tail already. A walk that ends meets no record twice, and it ends
with the tail. The removal of links in a clear always ends. If all records appended since the last
clear are different, the walk is these records in their order, as many as the chain counts; the tail
leads to none; and a clear removes the links of all of them and leaves the chain empty. -/
theorem walk_of_reachable (reachable : Reachable chain appended) :
    chain.tail = appended.getLast? ∧
    (∀ earlier last, appended = earlier ++ [last] →
      ((∃ rounds order, chain.walkFrom? rounds chain.head = some order) ↔
        earlier.getLast? ≠ some last)) ∧
    (∀ rounds order, chain.walkFrom? rounds chain.head = some order →
      order.Nodup ∧ order.getLast? = chain.tail ∧ chain.walk? = some order) ∧
    (∀ rounds, chain.records.length < rounds →
      chain.unlinkFrom rounds chain.head =
        chain.unlinkFrom (chain.records.length + 1) chain.head) ∧
    (appended.Nodup →
      chain.walk? = some appended ∧ appended.length = chain.size ∧
      (∀ last, chain.tail = some last → chain.next? last = none) ∧
      (∀ index ∈ appended, chain.clear.next? index = none) ∧
      chain.clear.head = none ∧ chain.clear.tail = none ∧ chain.clear.size = 0 ∧
      chain.clear.walk? = some []) := by
  have linked := reachable.linked
  refine ⟨linked.tail, ?_, ?_, fun rounds enough => linked.unlinks enough, ?_⟩
  · rintro earlier last rfl
    exact linked.walks_iff
  · intro rounds order walked
    obtain ⟨distinct, ends, walk, _⟩ := linked.walked walked
    exact ⟨distinct, ends, walk⟩
  · intro distinct
    obtain ⟨walk, ending⟩ := linked.walk_of_nodup distinct
    have cleared := linked.clear.walk_of_nodup List.nodup_nil
    exact ⟨walk, linked.size.symm, ending, linked.clear_next? distinct, rfl, rfl, rfl, cleared.1⟩

def cutChain : Chain :=
  let record : Record := { recordType := .auditRecord, content := ['a'], source := 0 }
  let three := ((({} : Chain).create record).2.create record).2.create record
  (((three.2.append 0).append 1).append 2).append 1

theorem cutChain_reachable : Reachable cutChain [0, 1, 2, 1] :=
  .appended (by decide) (.appended (by decide) (.appended (by decide) (.appended (by decide)
    (.created _ (.created _ (.created _ .empty))))))

theorem walk_of_reachable_cut :
    cutChain.walk? = some [0, 1] ∧ cutChain.next? 2 = some 1 ∧
    (¬ ∃ rounds order,
      (cutChain.append 1).walkFrom? rounds (cutChain.append 1).head = some order) ∧
    ∃ rounds, ((cutChain.append 1).append 2).walkFrom? rounds (some 0) = some [0, 1, 2] := by
  have circle : Reachable (cutChain.append 1) [0, 1, 2, 1, 1] :=
    .appended (by decide) cutChain_reachable
  have reopened : Reachable ((cutChain.append 1).append 2) [0, 1, 2, 1, 1, 2] :=
    .appended (by decide) circle
  obtain ⟨_, _, walks, _, _⟩ := walk_of_reachable cutChain_reachable
  obtain ⟨_, circles, _, _, _⟩ := walk_of_reachable circle
  obtain ⟨_, opens, walksAgain, _, _⟩ := walk_of_reachable reopened
  have round : cutChain.walkFrom? 2 cutChain.head = some [0, 1] := by decide
  obtain ⟨rounds, order, walked⟩ := (opens [0, 1, 2, 1, 1] 2 rfl).mpr (by decide)
  have again : ((cutChain.append 1).append 2).walk? = some [0, 1, 2] := by decide
  obtain ⟨_, _, same⟩ := walksAgain rounds order walked
  rw [again] at same
  obtain rfl := Option.some.inj same
  refine ⟨(walks 2 [0, 1] round).2.2, by decide, ?_, rounds, walked⟩
  rw [circles [0, 1, 2, 1] 1 rfl]
  decide

end ProtocolGate.Chain
