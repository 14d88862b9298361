import ProtocolGate.Canonical.Context
import ProtocolGate.Proofs.Text

/-!
Rewriting as a relation between a text, what is written for it and what is left of it. The loop
computes the one outcome of the relation whenever every move reads or writes something.
-/

namespace ProtocolGate.Canonical

theorem opensWith_iff (form text : Text) :
    opensWith form text = true ↔ form <+: asciiLower text := by
  induction form generalizing text with
  | nil => simp [opensWith]
  | cons expected form ih =>
      cases text with
      | nil => simp [opensWith]
      | cons c text =>
          rw [asciiLower_cons, List.cons_prefix_cons, ← ih, eq_comm (a := expected)]
          simp only [opensWith, Bool.and_eq_true, beq_iff_eq]

theorem isInfix_slice (text : Text) (start stop : Int) : slice text start stop <:+: text :=
  (List.drop_suffix _ _).isInfix.trans (List.take_prefix _ _).isInfix

theorem slice_natural (text : Text) (start length : Nat) :
    slice text start (start + length) = (text.drop start).take length := by
  have nonnegative : ¬ ((start : Int) + length < 0) := by omega
  simp only [slice, placeOf, nonnegative, if_false, Int.natCast_nonneg, Int.not_lt.mpr,
    Int.toNat_natCast]
  rw [show ((start : Int) + length).toNat = start + length by omega, List.drop_take]
  rw [Nat.add_sub_cancel_left]

namespace Rewrite

theorem opens_iff (rewrite : Rewrite) (text : Text) :
    rewrite.opens text = true ↔ rewrite.encoded <+: asciiLower text :=
  opensWith_iff rewrite.encoded text

theorem infix_of_occursAt {rewrite : Rewrite} {text : Text} {position : Int}
    (found : rewrite.occursAt text position = true) :
    rewrite.encoded <:+: asciiLower text := by
  simp only [occursAt, Bool.and_eq_true, beq_iff_eq] at found
  rw [← found.2]
  exact (isInfix_slice text _ _).map Char.toLower

theorem occursAt_natural (rewrite : Rewrite) {text : Text} {position : Nat}
    (bound : position ≤ text.length) :
    rewrite.occursAt text position = rewrite.opens (text.drop position) := by
  rw [Bool.eq_iff_iff, opens_iff, List.prefix_iff_eq_take]
  simp only [occursAt, Bool.and_eq_true, decide_eq_true_eq, beq_iff_eq, slice_natural,
    asciiLower_take]
  constructor
  · exact fun found => found.2.symm
  · intro taken
    have length := congrArg List.length taken
    simp only [List.length_take, length_asciiLower, List.length_drop] at length
    exact ⟨by omega, taken.symm⟩

end Rewrite

namespace Table

theorem first?_eq_none_iff (table : Table) (text : Text) :
    table.first? text = none ↔ ∀ rewrite ∈ table, ¬ rewrite.encoded <+: asciiLower text := by
  simp only [first?, List.find?_eq_none, Rewrite.opens_iff]

theorem first?_some {table : Table} {text : Text} {rewrite : Rewrite}
    (found : table.first? text = some rewrite) :
    rewrite ∈ table ∧ rewrite.encoded <+: asciiLower text := by
  have opens : rewrite.opens text = true :=
    List.find?_some (p := fun rewrite : Rewrite => rewrite.opens text) found
  exact ⟨List.mem_of_find?_eq_some found, (rewrite.opens_iff text).mp opens⟩

theorem find?_natural (table : Table) {text : Text} {position : Nat}
    (bound : position ≤ text.length) :
    table.find? text position = table.first? (text.drop position) := by
  simp only [find?, first?, Rewrite.occursAt_natural _ bound]

theorem piece_of_first?_some {table : Table} {c : Char} {rest : Text} {rewrite : Rewrite}
    (found : table.first? (c :: rest) = some rewrite) :
    table.piece c rest = { written := rewrite.canonical, read := rewrite.encoded.length } := by
  simp [piece, found]

theorem piece_of_first?_none {table : Table} {c : Char} {rest : Text}
    (absent : table.first? (c :: rest) = none) :
    table.piece c rest = { written := [c], read := 1 } := by
  simp [piece, absent]

def Progressive (table : Table) : Prop :=
  ∀ c rest, 0 < (table.piece c rest).read ∨ 0 < (table.piece c rest).written.length

theorem progressive_of_encoded {table : Table}
    (nonempty : ∀ rewrite ∈ table, rewrite.encoded ≠ []) : table.Progressive := by
  intro c rest
  left
  cases found : table.first? (c :: rest) with
  | none => simp [piece_of_first?_none found]
  | some rewrite =>
      rw [piece_of_first?_some found]
      exact List.length_pos_iff.mpr (nonempty rewrite (first?_some found).1)

theorem standard_encoded_length : ∀ rewrite ∈ Table.standard, 0 < rewrite.encoded.length := by
  decide +kernel

theorem standard_progressive : Table.standard.Progressive :=
  progressive_of_encoded fun rewrite member =>
    List.length_pos_iff.mp (standard_encoded_length rewrite member)

/-- A text under a capacity, what is written for it, and what is left of it. -/
inductive Rewrites (table : Table) : Nat → Text → Text → Text → Prop
  | finished {capacity} : Rewrites table capacity [] [] []
  | full {capacity c rest} : capacity < (table.piece c rest).written.length →
      Rewrites table capacity (c :: rest) [] (c :: rest)
  | move {capacity c rest written left} : (table.piece c rest).written.length ≤ capacity →
      Rewrites table (capacity - (table.piece c rest).written.length)
        ((c :: rest).drop (table.piece c rest).read) written left →
      Rewrites table capacity (c :: rest) ((table.piece c rest).written ++ written) left

theorem Rewrites.copy {table : Table} {capacity : Nat} {c : Char} {rest written left : Text}
    (absent : table.first? (c :: rest) = none) (room : 1 ≤ capacity)
    (tail : table.Rewrites (capacity - 1) rest written left) :
    table.Rewrites capacity (c :: rest) (c :: written) left := by
  have copied := piece_of_first?_none absent
  have step : table.Rewrites capacity (c :: rest) ((table.piece c rest).written ++ written) left :=
    .move (by simpa [copied] using room) (by simpa [copied] using tail)
  simpa [copied] using step

theorem Rewrites.apply {table : Table} {capacity : Nat} {c : Char} {rest written left : Text}
    {rewrite : Rewrite} (found : table.first? (c :: rest) = some rewrite)
    (room : rewrite.canonical.length ≤ capacity)
    (tail : table.Rewrites (capacity - rewrite.canonical.length)
      ((c :: rest).drop rewrite.encoded.length) written left) :
    table.Rewrites capacity (c :: rest) (rewrite.canonical ++ written) left := by
  have rewritten := piece_of_first?_some found
  have step : table.Rewrites capacity (c :: rest) ((table.piece c rest).written ++ written) left :=
    .move (by simpa only [rewritten] using room) (by simpa only [rewritten] using tail)
  simpa only [rewritten] using step

theorem Rewrites.unique {table : Table} {capacity : Nat} {text written left written' left' : Text}
    (run : table.Rewrites capacity text written left)
    (other : table.Rewrites capacity text written' left') : written = written' ∧ left = left' := by
  induction run generalizing written' left' with
  | finished =>
      cases other
      exact ⟨rfl, rfl⟩
  | full exceeds =>
      cases other with
      | full _ => exact ⟨rfl, rfl⟩
      | move fits _ => omega
  | move fits _ ih =>
      cases other with
      | full exceeds => omega
      | move _ tail =>
          obtain ⟨sameWritten, sameLeft⟩ := ih tail
          exact ⟨by rw [sameWritten], sameLeft⟩

theorem rewrites_rewrite {table : Table} (progressive : table.Progressive)
    {fuel capacity : Nat} {text : Text} (enough : text.length + capacity < fuel) :
    table.Rewrites capacity text (table.rewrite fuel capacity text).1
      (table.rewrite fuel capacity text).2 := by
  induction fuel generalizing capacity text with
  | zero => omega
  | succ fuel ih =>
      cases text with
      | nil => exact .finished
      | cons c rest =>
          simp only [rewrite]
          split
          · rename_i fits
            refine .move fits (ih ?_)
            have progress := progressive c rest
            simp only [List.length_drop, List.length_cons] at enough ⊢
            omega
          · rename_i exceeds
            exact .full (by omega)

theorem Rewrites.rewrite_eq {table : Table} (progressive : table.Progressive)
    {fuel capacity : Nat} {text written left : Text}
    (run : table.Rewrites capacity text written left) (enough : text.length + capacity < fuel) :
    table.rewrite fuel capacity text = (written, left) := by
  have computed := run.unique (rewrites_rewrite progressive enough)
  rw [computed.1, computed.2]

end Table

namespace Policy

theorem activeTable_standard {policy : Policy} (standard : policy.table = .standard)
    (encoding : policy.encodingNormalize = true) : policy.activeTable = .standard := by
  simp [activeTable, encoding, standard]

theorem form_of_rewrites {policy : Policy} (progressive : policy.activeTable.Progressive)
    {capacity : Nat} {text written left : Text}
    (run : policy.activeTable.Rewrites capacity text written left) :
    policy.form capacity text =
      { text := policy.finish written, truncated := !left.isEmpty } := by
  have enough : text.length + capacity < moveLimit capacity text := Nat.lt_succ_self _
  simp only [form, run.rewrite_eq progressive enough]

theorem exists_rewrites {policy : Policy} (progressive : policy.activeTable.Progressive)
    (capacity : Nat) (text : Text) :
    ∃ written left, policy.activeTable.Rewrites capacity text written left ∧
      policy.form capacity text =
        { text := policy.finish written, truncated := !left.isEmpty } := by
  have run := Table.rewrites_rewrite progressive (Nat.lt_succ_self (text.length + capacity))
  exact ⟨_, _, run, form_of_rewrites progressive run⟩

end Policy

namespace Context

@[simp] theorem hold_policy (context : Context) (form : Form) :
    (context.hold form).policy = context.policy := by
  unfold hold
  split <;> rfl

theorem normalize_of_inputText {context : Context} {data : Datum} {bound : Option Int} {text : Text}
    (read : inputText data = .ok text) (room : 1 ≤ bound.getD context.bufferSize) :
    context.normalize data bound =
      (.ok (context.policy.form (bound.getD context.bufferSize - 1).toNat text),
        context.hold (context.policy.form (bound.getD context.bufferSize - 1).toNat text)) := by
  simp only [normalize, read, Int.not_lt.mpr room, if_false]

theorem normalize_text (context : Context) (text : Text) {bound : Int} (room : 1 ≤ bound) :
    (context.normalize (.text text) (some bound)).1 =
      .ok (context.policy.form (bound - 1).toNat text) := by
  rw [normalize_of_inputText rfl (by simpa using room), Option.getD_some]

theorem inputText_of_normalize {context : Context} {data : Datum} {bound : Option Int} {form : Form}
    (normalized : (context.normalize data bound).1 = .ok form) :
    ∃ text, inputText data = .ok text ∧ 1 ≤ bound.getD context.bufferSize ∧
      form = context.policy.form (bound.getD context.bufferSize - 1).toNat text := by
  unfold normalize at normalized
  split at normalized
  · simp at normalized
  · rename_i text read
    dsimp only at normalized
    split at normalized
    · simp at normalized
    · rename_i room
      exact ⟨text, read, by omega, (Except.ok.inj normalized).symm⟩

@[simp] theorem normalize_policy (context : Context) (data : Datum) (bound : Option Int) :
    (context.normalize data bound).2.policy = context.policy := by
  unfold normalize
  split
  · rfl
  · dsimp only
    split
    · rfl
    · exact hold_policy context _

end Context

end ProtocolGate.Canonical
