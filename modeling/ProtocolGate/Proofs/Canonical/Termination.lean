import ProtocolGate.Proofs.Canonical.Rewriting

/-!
How long rewriting goes on. A table may have rewrites of the empty form. The first of them applies
wherever no earlier rewrite does, and it reads nothing; so all depends on whether it writes
something. If it does, every round reads or writes, and the rounds are bounded. If it does not, the
loop stays for ever at the first place where it applies.
-/

namespace ProtocolGate.Canonical

structure Cursor where
  written : Text := []
  position : Nat := 0

namespace Table

def pieceAt (table : Table) (text : Text) (position : Nat) : Piece :=
  match table.find? text position with
  | some rewrite => { written := rewrite.canonical, read := rewrite.encoded.length }
  | none => { written := (text.drop position).take 1, read := 1 }

def next (table : Table) (text : Text) (cursor : Cursor) : Cursor where
  written := cursor.written ++ (table.pieceAt text cursor.position).written
  position := cursor.position + (table.pieceAt text cursor.position).read

/-- From a cursor the loop ends after a number of rounds at another one. Before each round it tests
whether there is text left; a round whose piece does not fit the capacity is the last. -/
inductive Ends (table : Table) (capacity : Nat) (text : Text) : Cursor → Nat → Cursor → Prop
  | exhausted {cursor} : text.length ≤ cursor.position → Ends table capacity text cursor 0 cursor
  | full {cursor} : cursor.position < text.length →
      capacity < (table.next text cursor).written.length → Ends table capacity text cursor 1 cursor
  | moved {cursor rounds last} : cursor.position < text.length →
      (table.next text cursor).written.length ≤ capacity →
      Ends table capacity text (table.next text cursor) rounds last →
      Ends table capacity text cursor (rounds + 1) last

inductive Reaches (table : Table) (capacity : Nat) (text : Text) : Cursor → Prop
  | start : Reaches table capacity text {}
  | moved {cursor} : Reaches table capacity text cursor → cursor.position < text.length →
      (table.next text cursor).written.length ≤ capacity →
      Reaches table capacity text (table.next text cursor)

def firstEmpty? (table : Table) : Option Rewrite :=
  List.find? (fun rewrite => rewrite.encoded.isEmpty) table

variable {table : Table} {capacity : Nat} {text : Text} {cursor last : Cursor} {rounds : Nat}

theorem pieceAt_eq {position : Nat} {c : Char} {rest : Text}
    (here : text.drop position = c :: rest) : table.pieceAt text position = table.piece c rest := by
  have inside : position ≤ text.length := by
    have size := congrArg List.length here
    simp only [List.length_drop, List.length_cons] at size
    omega
  rw [pieceAt, piece, find?_natural table inside, here]
  rfl

theorem exists_drop_eq {position : Nat} (inside : position < text.length) :
    ∃ c rest, text.drop position = c :: rest :=
  ⟨_, _, List.drop_eq_getElem_cons inside⟩

theorem next_position_le (inside : cursor.position < text.length) :
    (table.next text cursor).position ≤ text.length := by
  simp only [next, pieceAt]
  split
  · rename_i rewrite found
    have occurs : rewrite.occursAt text cursor.position = true :=
      List.find?_some (p := fun rewrite : Rewrite => rewrite.occursAt text cursor.position) found
    simp only [Rewrite.occursAt, Bool.and_eq_true, decide_eq_true_eq] at occurs
    dsimp only
    omega
  · dsimp only
    omega

/-- A rewrite that reads nothing applies only if no earlier one can, so it is the first of its
kind. -/
theorem firstEmpty?_of_first? {rewrite : Rewrite} (found : table.first? text = some rewrite)
    (empty : rewrite.encoded = []) : table.firstEmpty? = some rewrite := by
  simp only [first?, firstEmpty?, List.find?_eq_some_iff_append] at found ⊢
  obtain ⟨_, earlier, later, shape, unopened⟩ := found
  refine ⟨by simp [empty], earlier, later, shape, ?_⟩
  intro other member
  have closed := unopened other member
  simp only [Bool.not_eq_true'] at closed ⊢
  cases form : other.encoded with
  | nil =>
      simp only [Rewrite.opens, form, opensWith] at closed
      contradiction
  | cons => rfl

theorem progressive_of_firstEmpty
    (writes : ∀ rewrite, table.firstEmpty? = some rewrite → rewrite.canonical ≠ []) :
    table.Progressive := by
  intro c rest
  cases found : table.first? (c :: rest) with
  | none =>
      left
      simp [piece_of_first?_none found]
  | some rewrite =>
      rw [piece_of_first?_some found]
      by_cases empty : rewrite.encoded = []
      · right
        exact List.length_pos_iff.mpr (writes rewrite (firstEmpty?_of_first? found empty))
      · left
        exact List.length_pos_iff.mpr empty

theorem next_advances (progressive : table.Progressive) (inside : cursor.position < text.length) :
    cursor.position + cursor.written.length <
      (table.next text cursor).position + (table.next text cursor).written.length := by
  obtain ⟨c, rest, here⟩ := exists_drop_eq inside
  have progress := progressive c rest
  simp only [next, pieceAt_eq here, List.length_append]
  omega

theorem exists_ends (progressive : table.Progressive) (cursor : Cursor)
    (position : cursor.position ≤ text.length) (size : cursor.written.length ≤ capacity) :
    ∃ rounds last, table.Ends capacity text cursor rounds last ∧
      rounds + (cursor.position + cursor.written.length) ≤ text.length + capacity + 1 ∧
      last.position ≤ text.length := by
  -- Position and size of what is written grow together, and each has its bound.
  generalize measure : text.length + capacity - (cursor.position + cursor.written.length) = room
  induction room using Nat.strongRecOn generalizing cursor with
  | ind room ih =>
      by_cases past : text.length ≤ cursor.position
      · exact ⟨0, cursor, .exhausted past, by omega, position⟩
      · have inside := Nat.lt_of_not_le past
        by_cases fits : (table.next text cursor).written.length ≤ capacity
        · have advances := next_advances progressive inside
          have bound : (table.next text cursor).position ≤ text.length :=
            next_position_le inside
          obtain ⟨rounds, last, ends, few, within⟩ :=
            ih _ (by omega) (table.next text cursor) bound fits rfl
          exact ⟨rounds + 1, last, .moved inside fits ends, by omega, within⟩
        · exact ⟨1, cursor, .full inside (Nat.lt_of_not_le fits), by omega, position⟩

theorem Ends.rewrite_eq (ends : table.Ends capacity text cursor rounds last)
    (size : cursor.written.length ≤ capacity) {fuel : Nat} (enough : rounds ≤ fuel) :
    ∃ written, last.written = cursor.written ++ written ∧
      table.rewrite fuel (capacity - cursor.written.length) (text.drop cursor.position) =
        (written, text.drop last.position) := by
  induction ends generalizing fuel with
  | @exhausted cursor past =>
      refine ⟨[], (List.append_nil _).symm, ?_⟩
      rw [List.drop_of_length_le past]
      cases fuel <;> rfl
  | @full cursor inside exceeds =>
      obtain ⟨c, rest, here⟩ := exists_drop_eq inside
      obtain ⟨fuel, rfl⟩ := Nat.exists_eq_add_of_le' enough
      simp only [next, pieceAt_eq here, List.length_append] at exceeds
      refine ⟨[], (List.append_nil _).symm, ?_⟩
      rw [here, rewrite, if_neg (by omega)]
  | @moved cursor rounds last inside fits _ ih =>
      obtain ⟨c, rest, here⟩ := exists_drop_eq inside
      obtain ⟨fuel, rfl⟩ : ∃ less, fuel = less + 1 := ⟨fuel - 1, by omega⟩
      obtain ⟨written, total, computed⟩ := ih fits (Nat.le_of_succ_le_succ enough)
      simp only [next, pieceAt_eq here, List.length_append] at fits total computed
      refine ⟨(table.piece c rest).written ++ written, by rw [total, List.append_assoc], ?_⟩
      rw [← List.drop_drop, here, ← Nat.sub_sub] at computed
      rw [here, rewrite, if_pos (by omega), computed]

theorem Reaches.size_le (reaches : table.Reaches capacity text cursor) :
    cursor.written.length ≤ capacity := by
  cases reaches with
  | start => exact Nat.zero_le capacity
  | moved _ _ fits => exact fits

theorem Reaches.ends (reaches : table.Reaches capacity text cursor)
    (ends : ∃ rounds last, table.Ends capacity text {} rounds last) :
    ∃ rounds last, table.Ends capacity text cursor rounds last := by
  induction reaches with
  | start => exact ends
  | moved _ inside fits ih =>
      obtain ⟨rounds, last, before⟩ := ih
      -- The loop has one way to go on, so what ends there has come through here.
      cases before with
      | exhausted past => omega
      | full _ exceeds => omega
      | moved _ _ after => exact ⟨_, _, after⟩

theorem not_ends_of_still (still : table.next text cursor = cursor)
    (inside : cursor.position < text.length) (size : cursor.written.length ≤ capacity) :
    ¬ table.Ends capacity text cursor rounds last := by
  intro ends
  induction rounds with
  | zero =>
      cases ends with
      | exhausted past => omega
  | succ rounds ih =>
      cases ends with
      | full _ exceeds =>
          rw [still] at exceeds
          omega
      | moved _ _ after =>
          rw [still] at after
          exact ih after

theorem next_eq_self {earlier later : Table} {rewrite : Rewrite}
    (shape : table = earlier ++ rewrite :: later) (reads : rewrite.encoded = [])
    (writes : rewrite.canonical = []) (inside : cursor.position < text.length)
    (unmatched : ∀ other ∈ earlier, other.occursAt text cursor.position = false) :
    table.next text cursor = cursor := by
  have occurs : rewrite.occursAt text cursor.position = true := by
    rw [Rewrite.occursAt_natural rewrite (Nat.le_of_lt inside), Rewrite.opens, reads, opensWith]
  have found : table.find? text cursor.position = some rewrite := by
    simp only [find?, List.find?_eq_some_iff_append]
    refine ⟨occurs, earlier, later, shape, ?_⟩
    intro other member
    simp only [unmatched other member, Bool.not_false]
  simp only [next, pieceAt, found, reads, writes, List.append_nil, List.length_nil, Nat.add_zero]

/-- A table without rewrites of the empty form, or whose first one writes something, is done with a
text after at most one round more than text and capacity have places, and rewriting gives what the
loop has written and the rest of the text behind the position that it has come to. If the first
rewrite of the empty form writes nothing, then the loop never ends once it comes to a place in the
text where no earlier rewrite occurs: it comes back to that place in every round. -/
theorem rewriting_ends (table : Table) (capacity : Nat) (text : Text) :
    ((∀ rewrite, table.firstEmpty? = some rewrite → rewrite.canonical ≠ []) →
      ∃ rounds last, table.Ends capacity text {} rounds last ∧
        rounds ≤ text.length + capacity + 1 ∧ last.position ≤ text.length ∧
        table.rewrite (moveLimit capacity text) capacity text =
          (last.written, text.drop last.position)) ∧
    ∀ earlier rewrite later, table = earlier ++ rewrite :: later →
      table.firstEmpty? = some rewrite → rewrite.canonical = [] →
      ∀ cursor, table.Reaches capacity text cursor → cursor.position < text.length →
        (∀ other ∈ earlier, other.occursAt text cursor.position = false) →
        table.next text cursor = cursor ∧
        ∀ rounds last, ¬ table.Ends capacity text {} rounds last := by
  constructor
  · intro writes
    obtain ⟨rounds, last, ends, few, within⟩ := @exists_ends table capacity text
      (progressive_of_firstEmpty writes) {} (Nat.zero_le text.length) (Nat.zero_le capacity)
    have bound : rounds ≤ moveLimit capacity text := few
    obtain ⟨written, total, computed⟩ := ends.rewrite_eq (Nat.zero_le capacity) bound
    rw [List.nil_append] at total
    rw [← total] at computed
    exact ⟨rounds, last, ends, few, within, computed⟩
  · intro earlier rewrite later shape first writes cursor reaches inside unmatched
    have reads : rewrite.encoded = [] :=
      List.isEmpty_iff.mp (List.find?_some
        (p := fun rewrite : Rewrite => rewrite.encoded.isEmpty) first)
    have still := next_eq_self shape reads writes inside unmatched
    refine ⟨still, ?_⟩
    intro rounds last ends
    obtain ⟨_, _, again⟩ := reaches.ends ⟨rounds, last, ends⟩
    exact not_ends_of_still still inside reaches.size_le again

def emptyForms (writesFirst : Bool) : Table :=
  let marking : Rewrite := { encoded := [], canonical := ['-'], risk := [] }
  let idle : Rewrite := { encoded := [], canonical := [], risk := [] }
  { encoded := ['b'], canonical := [], risk := [] } ::
    if writesFirst then [marking, idle] else [idle, marking]

theorem rewriting_ends_empty :
    (∃ rounds last, (emptyForms true).Ends 2 ['b', 'a'] {} rounds last ∧ rounds ≤ 5 ∧
      (emptyForms true).rewrite 5 2 ['b', 'a'] =
        (last.written, List.drop last.position ['b', 'a']) ∧
      last.written = ['-', '-']) ∧
    ∀ rounds last, ¬ (emptyForms false).Ends 2 ['b', 'a'] {} rounds last := by
  constructor
  · have writes : ∀ rewrite, (emptyForms true).firstEmpty? = some rewrite →
        rewrite.canonical ≠ [] := by
      intro rewrite found
      obtain rfl := Option.some.inj found
      decide
    obtain ⟨rounds, last, ends, few, _, computed⟩ :=
      (rewriting_ends (emptyForms true) 2 ['b', 'a']).1 writes
    refine ⟨rounds, last, ends, few, computed, ?_⟩
    have evaluated : ((emptyForms true).rewrite 5 2 ['b', 'a']).1 = ['-', '-'] := by decide
    exact (congrArg Prod.fst computed).symm.trans evaluated
  · have reached : (emptyForms false).Reaches 2 ['b', 'a'] { written := [], position := 1 } :=
      .moved .start (by decide) (by decide)
    exact ((rewriting_ends (emptyForms false) 2 ['b', 'a']).2
      [{ encoded := ['b'], canonical := [], risk := [] }]
      { encoded := [], canonical := [], risk := [] }
      [{ encoded := [], canonical := ['-'], risk := [] }] rfl rfl rfl _ reached (by decide)
      (by decide)).2

end Table

end ProtocolGate.Canonical
