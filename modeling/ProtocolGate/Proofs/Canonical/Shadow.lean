import ProtocolGate.Canonical.Rewrite
import ProtocolGate.Proofs.Canonical.Rewriting

/-!
Shadowed rewrites. The report compares encoded forms with each other and looks at no text, yet what
it lists is what no text can select. A table that is left with the other rewrites therefore does the
same with every input.
-/

namespace ProtocolGate.Canonical

namespace Rewrite

theorem occursAt_natural_iff (rewrite : Rewrite) (text : Text) (position : Nat) :
    rewrite.occursAt text position = true ↔
      position ≤ text.length ∧ rewrite.encoded <+: asciiLower (text.drop position) := by
  by_cases bound : position ≤ text.length
  · rw [occursAt_natural rewrite bound, opens_iff]
    simp only [bound, true_and]
  · simp only [bound, false_and, iff_false]
    intro found
    simp only [occursAt, Bool.and_eq_true, decide_eq_true_eq] at found
    omega

theorem occursAt_of_prefix {shorter longer : Rewrite} (opens : shorter.encoded <+: longer.encoded)
    {text : Text} {position : Nat} (found : longer.occursAt text position = true) :
    shorter.occursAt text position = true := by
  rw [occursAt_natural_iff] at found ⊢
  exact ⟨found.1, opens.trans found.2⟩

theorem occursAt_head (rewrite : Rewrite) {form : Text} (lower : asciiLower form = form) :
    rewrite.occursAt form 0 = rewrite.encoded.isPrefixOf form := by
  have head := rewrite.occursAt_natural_iff form 0
  rw [List.drop_zero, lower] at head
  rw [Bool.eq_iff_iff, List.isPrefixOf_iff_prefix]
  simpa using head

end Rewrite

namespace Table

variable {table : Table} {index place : Nat} {rewrite winner : Rewrite} {text : Text}

/-- A search at a position of a text selects the rewrite at an index. -/
def Selects (table : Table) (text : Text) (position : Int) (index : Nat) : Prop :=
  List.findIdx? (fun rewrite : Rewrite => rewrite.occursAt text position) table = some index

theorem find?_eq_some_iff {position : Int} :
    table.find? text position = some rewrite ↔
      ∃ index, table.Selects text position index ∧ table[index]? = some rewrite := by
  simp only [find?, Selects, List.find?_eq_bind_findIdx?_getElem?, Option.bind_eq_some_iff]

def leader? (table : Table) (form : Text) : Option Nat :=
  table.findIdx? fun rewrite => rewrite.encoded.isPrefixOf form

theorem leader?_starts {form : Text} (found : table.leader? form = some place) :
    ∃ rewrite, table[place]? = some rewrite ∧ rewrite.encoded <+: form := by
  obtain ⟨bound, starts, _⟩ := List.findIdx?_eq_some_iff_getElem.mp found
  exact ⟨table[place], by simp, List.isPrefixOf_iff_prefix.mp starts⟩

theorem leader?_leader {form : Text} (found : table.leader? form = some place)
    (listed : table[place]? = some rewrite) : table.leader? rewrite.encoded = some place := by
  obtain ⟨bound, starts, before⟩ := List.findIdx?_eq_some_iff_getElem.mp found
  obtain ⟨_, rfl⟩ := List.getElem?_eq_some_iff.mp listed
  rw [List.isPrefixOf_iff_prefix] at starts
  refine List.findIdx?_eq_some_iff_getElem.mpr ⟨bound, by simp, ?_⟩
  intro earlier lower opens
  refine before earlier lower ?_
  rw [List.isPrefixOf_iff_prefix] at opens ⊢
  exact opens.trans starts

theorem exists_leader (listed : table[index]? = some rewrite) :
    ∃ place ≤ index, table.leader? rewrite.encoded = some place := by
  obtain ⟨bound, rfl⟩ := List.getElem?_eq_some_iff.mp listed
  have starts : table[index].encoded.isPrefixOf table[index].encoded = true := by simp
  cases found : table.leader? table[index].encoded with
  | none =>
      have absent := List.findIdx?_eq_none_iff.mp found table[index] (List.getElem_mem bound)
      rw [starts] at absent
      contradiction
  | some place =>
      obtain ⟨_, _, before⟩ := List.findIdx?_eq_some_iff_getElem.mp found
      exact ⟨place, Nat.le_of_not_lt fun later => before index later starts, rfl⟩

theorem winner?_eq_some_iff (listed : table[index]? = some rewrite) :
    table.winner? index = some winner ↔
      ∃ place < index, table.leader? rewrite.encoded = some place ∧
        table[place]? = some winner := by
  simp only [winner?, listed, Option.bind_eq_bind, Option.bind_some,
    List.find?_eq_bind_findIdx?_getElem?, List.findIdx?_take, Option.bind_eq_some_iff,
    Option.guard_eq_some_iff, decide_eq_true_eq]
  constructor
  · rintro ⟨place, ⟨found, leads, rfl, lower⟩, taken⟩
    refine ⟨found, lower, leads, ?_⟩
    rwa [List.getElem?_take_of_lt lower] at taken
  · rintro ⟨place, lower, leads, taken⟩
    refine ⟨place, ⟨place, leads, rfl, lower⟩, ?_⟩
    rwa [List.getElem?_take_of_lt lower]

theorem isShadowed_iff (listed : table[index]? = some rewrite) :
    table.isShadowed index = true ↔
      ∃ place < index, table.leader? rewrite.encoded = some place := by
  simp only [isShadowed, Option.isSome_iff_exists, winner?_eq_some_iff listed]
  constructor
  · rintro ⟨_, place, lower, leads, _⟩
    exact ⟨place, lower, leads⟩
  · rintro ⟨place, lower, leads⟩
    obtain ⟨winner, found, _⟩ := leader?_starts leads
    exact ⟨winner, place, lower, leads, found⟩

theorem not_isShadowed_iff (listed : table[index]? = some rewrite) :
    table.isShadowed index = false ↔ table.leader? rewrite.encoded = some index := by
  obtain ⟨place, within, leads⟩ := exists_leader listed
  rw [← Bool.not_eq_true, isShadowed_iff listed, leads, Option.some.injEq]
  constructor
  · intro none
    by_cases same : place = index
    · exact same
    · exact absurd ⟨place, by omega, rfl⟩ none
  · rintro rfl ⟨other, lower, same⟩
    obtain rfl := Option.some.inj same
    omega

theorem Selects.listed {position : Int} (selected : table.Selects text position index) :
    ∃ rewrite, table[index]? = some rewrite ∧ rewrite.occursAt text position = true := by
  obtain ⟨bound, occurs, _⟩ := List.findIdx?_eq_some_iff_getElem.mp selected
  exact ⟨table[index], by simp, occurs⟩

theorem Selects.not_isShadowed {position : Nat} (selected : table.Selects text position index) :
    table.isShadowed index = false := by
  obtain ⟨rewrite, listed, occurs⟩ := selected.listed
  rw [← Bool.not_eq_true, isShadowed_iff listed]
  rintro ⟨place, lower, leads⟩
  -- Wherever a shadowed rewrite occurs, its winner occurs as well, and it comes first.
  obtain ⟨winner, found, starts⟩ := leader?_starts leads
  obtain ⟨bound, rfl⟩ := List.getElem?_eq_some_iff.mp found
  obtain ⟨_, _, before⟩ := List.findIdx?_eq_some_iff_getElem.mp selected
  exact before place lower (Rewrite.occursAt_of_prefix starts occurs)

theorem selects_head {form : Text} (lower : asciiLower form = form) :
    table.Selects form 0 place ↔ table.leader? form = some place := by
  simp only [Selects, leader?, Rewrite.occursAt_head _ lower]

theorem mem_shadowed_iff :
    (rewrite, winner) ∈ table.shadowed ↔
      ∃ index, table[index]? = some rewrite ∧ table.winner? index = some winner := by
  simp only [shadowed, List.mem_filterMap, List.mem_range]
  constructor
  · rintro ⟨index, _, reported⟩
    split at reported
    · rename_i listed wins
      obtain ⟨rfl, rfl⟩ := Prod.mk.inj (Option.some.inj reported)
      exact ⟨index, listed, wins⟩
    · contradiction
  · rintro ⟨index, listed, wins⟩
    have bound := (List.getElem?_eq_some_iff.mp listed).1
    exact ⟨index, bound, by simp only [listed, wins]⟩

def unshadowedAt? (table : Table) (index : Nat) : Option Rewrite :=
  if table.isShadowed index then none else table[index]?

/-- A table without its shadowed rewrites. -/
def unshadowed (table : Table) : Table :=
  (List.range table.length).filterMap table.unshadowedAt?

theorem unshadowedAt?_eq_some_iff :
    table.unshadowedAt? index = some rewrite ↔
      table.isShadowed index = false ∧ table[index]? = some rewrite := by
  unfold unshadowedAt?
  split
  · rename_i shadowed
    simp [shadowed]
  · rename_i kept
    simp [kept]

theorem selects_zero : table.Selects text 0 index ↔
    table.findIdx? (fun rewrite => rewrite.opens text) = some index := by
  have head (rewrite : Rewrite) : rewrite.occursAt text 0 = rewrite.opens text :=
    rewrite.occursAt_natural (Nat.zero_le text.length)
  simp only [Selects, head]

theorem first?_unshadowed (table : Table) (text : Text) :
    table.unshadowed.first? text = table.first? text := by
  have whole : table.first? text =
      (table.findIdx? fun rewrite => rewrite.opens text).bind (table[·]?) :=
    List.find?_eq_bind_findIdx?_getElem?
  rw [whole, first?, unshadowed, List.find?_filterMap]
  cases found : table.findIdx? (fun rewrite => rewrite.opens text) with
  | none =>
      rw [List.findIdx?_eq_none_iff] at found
      rw [List.find?_eq_none.mpr, Option.bind_none, Option.bind_none]
      intro index _ opens
      obtain ⟨rewrite, left, applies⟩ := (Option.any_eq_true _ _).mp opens
      have listed := (unshadowedAt?_eq_some_iff.mp left).2
      rw [found rewrite (List.mem_of_getElem? listed)] at applies
      contradiction
  -- The rewrite that applies is not shadowed, so it is left, and nothing has come before it.
  | some index =>
      have selected : table.Selects text ((0 : Nat) : Int) index := selects_zero.mpr found
      have kept := selected.not_isShadowed
      obtain ⟨bound, opens, before⟩ := List.findIdx?_eq_some_iff_getElem.mp found
      have left : table.unshadowedAt? index = some table[index] :=
        unshadowedAt?_eq_some_iff.mpr ⟨kept, by simp⟩
      rw [List.find?_range_eq_some.mpr ⟨by rw [left]; exact opens, by simpa using bound, ?_⟩,
        Option.bind_some, Option.bind_some, left, List.getElem?_eq_getElem bound]
      intro earlier lower
      rw [Bool.not_eq_true', Option.any_eq_false]
      intro rewrite left
      obtain ⟨_, rfl⟩ := List.getElem?_eq_some_iff.mp (unshadowedAt?_eq_some_iff.mp left).2
      simpa using before earlier lower

theorem piece_congr {other : Table} (same : ∀ text, other.first? text = table.first? text)
    (c : Char) (rest : Text) : other.piece c rest = table.piece c rest := by
  rw [piece, piece, same]

theorem rewrite_congr {other : Table} (same : ∀ text, other.first? text = table.first? text)
    (fuel capacity : Nat) (text : Text) :
    other.rewrite fuel capacity text = table.rewrite fuel capacity text := by
  induction fuel generalizing capacity text with
  | zero => rfl
  | succ fuel ih =>
      cases text with
      | nil => rfl
      | cons c rest => simp only [rewrite, piece_congr same, ih]

end Table

namespace Context

def withTable (context : Context) (table : Table) : Context :=
  { context with policy := { context.policy with table } }

theorem hold_withTable (context : Context) (table : Table) (form : Form) :
    (context.withTable table).hold form = (context.hold form).withTable table := by
  by_cases fits : form.length < context.bufferSize
  · have fitsToo : form.length < (context.withTable table).bufferSize := fits
    rw [hold, if_pos fitsToo, hold, if_pos fits]
    rfl
  · have fitsNeither : ¬ form.length < (context.withTable table).bufferSize := fits
    rw [hold, if_neg fitsNeither, hold, if_neg fits]

theorem form_unshadowed (context : Context) (capacity : Nat) (text : Text) :
    (context.withTable context.policy.table.unshadowed).policy.form capacity text =
      context.policy.form capacity text := by
  have active : (context.withTable context.policy.table.unshadowed).policy.activeTable.rewrite
      (moveLimit capacity text) capacity text =
        context.policy.activeTable.rewrite (moveLimit capacity text) capacity text := by
    unfold Policy.activeTable withTable
    split
    · exact Table.rewrite_congr (Table.first?_unshadowed _) _ _ _
    · rfl
  simp only [Policy.form, active]
  rfl

theorem normalize_unshadowed (context : Context) (data : Datum) (bound : Option Int) :
    (context.withTable context.policy.table.unshadowed).normalize data bound =
      ((context.normalize data bound).1,
        (context.normalize data bound).2.withTable context.policy.table.unshadowed) := by
  unfold normalize
  cases inputText data with
  | error fault => rfl
  | ok text =>
      have size : (context.withTable context.policy.table.unshadowed).bufferSize =
        context.bufferSize := rfl
      simp only [size, form_unshadowed, hold_withTable]
      split <;> rfl

end Context

/-- The report is exact. A rewrite that it lists is selected in no text and at no position; where
the encoded forms are in lower case, every other one is selected in some text. The winner stands
before the rewrite that it shadows and is not shadowed itself, and in the text that is the shadowed
form a search selects it. A table without the rewrites listed does the same with every input. -/
theorem shadowed_unselected (table : Table) :
    (∀ rewrite winner, (rewrite, winner) ∈ table.shadowed ↔
      ∃ index, table[index]? = some rewrite ∧ table.winner? index = some winner) ∧
    (∀ text position rewrite, table.find? text position = some rewrite ↔
      ∃ index, table.Selects text position index ∧ table[index]? = some rewrite) ∧
    (∀ index winner, table.winner? index = some winner →
      ∀ text (position : Nat), ¬ table.Selects text position index) ∧
    ((∀ rewrite ∈ table, asciiLower rewrite.encoded = rewrite.encoded) →
      ∀ index < table.length, table.winner? index = none →
        ∃ text, ∃ position : Nat, table.Selects text position index) ∧
    (∀ index rewrite winner, table[index]? = some rewrite → table.winner? index = some winner →
      ∃ place < index, table[place]? = some winner ∧ table.winner? place = none ∧
        (asciiLower rewrite.encoded = rewrite.encoded →
          table.Selects rewrite.encoded 0 place)) ∧
    (∀ context : Context, context.policy.table = table → ∀ data bound,
      ((context.withTable table.unshadowed).normalize data bound).1 =
        (context.normalize data bound).1) := by
  refine ⟨fun rewrite winner => Table.mem_shadowed_iff,
    fun text position rewrite => Table.find?_eq_some_iff, ?_, ?_, ?_, ?_⟩
  · intro index winner wins text position selected
    have kept := selected.not_isShadowed
    rw [Table.isShadowed, wins] at kept
    contradiction
  · intro lower index bound none
    have listed : table[index]? = some table[index] := by simp
    have kept : table.isShadowed index = false := by simp [Table.isShadowed, none]
    have leads := (Table.not_isShadowed_iff listed).mp kept
    exact ⟨table[index].encoded, 0,
      (Table.selects_head (lower _ (List.getElem_mem bound))).mpr leads⟩
  · intro index rewrite winner listed wins
    obtain ⟨place, before, leads, found⟩ := (Table.winner?_eq_some_iff listed).mp wins
    have kept := (Table.not_isShadowed_iff found).mpr (Table.leader?_leader leads found)
    refine ⟨place, before, found, ?_, fun lower => (Table.selects_head lower).mpr leads⟩
    simpa [Table.isShadowed] using kept
  · rintro context rfl data bound
    rw [Context.normalize_unshadowed]

theorem shadowed_unselected_standard :
    ∃ winner : Rewrite, winner.canonical = "../".toList ∧ Table.standard.winner? 9 = some winner ∧
      (∀ text (position : Nat), ¬ Table.standard.Selects text position 9) ∧
      (∃ text, ∃ position : Nat, Table.standard.Selects text position 8) ∧
      (∃ place < 9, Table.standard[place]? = some winner ∧
        Table.standard.Selects "%c0%af".toList 0 place) ∧
      ((({} : Context).withTable Table.standard.unshadowed).normalize (.text "%C0%AF".toList)
        (some 9)).1 =
          .ok { text := "../".toList } := by
  obtain ⟨_, _, unselected, selected, winners, same⟩ := shadowed_unselected .standard
  have wins : Table.standard.winner? 9 = some
      { encoded := "%c0%af".toList, canonical := "../".toList, risk := "utf8_overlong".toList } := by
    decide +kernel
  obtain ⟨place, before, listed, _, leads⟩ := winners 9 _ _ rfl wins
  refine ⟨_, rfl, wins, unselected 9 _ wins, ?_, ⟨place, before, listed, leads (by rfl)⟩, ?_⟩
  · exact selected (by decide +kernel) 8 (by decide) (by decide +kernel)
  · rw [same {} rfl]
    rfl

end ProtocolGate.Canonical
