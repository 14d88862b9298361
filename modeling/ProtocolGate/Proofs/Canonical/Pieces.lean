import ProtocolGate.Proofs.Canonical.Equivalence

/-!
Pieces. Rewriting a whole text from left to right gives a sequence of pieces that no bound has a
part in. A bound only decides how many of them are written: the longest run from the first one on
that fits it.
-/

namespace ProtocolGate.Canonical

namespace Table

def FirstApplies (table : Table) (text : Text) (rewrite : Rewrite) : Prop :=
  ∃ earlier later, table = earlier ++ rewrite :: later ∧
    rewrite.encoded <+: asciiLower text ∧
    ∀ other ∈ earlier, ¬ other.encoded <+: asciiLower text

/-- The pieces of a whole text: what the first rewrite that applies stands for, and where none
applies a single character. -/
inductive Pieces (table : Table) : Text → List Text → Prop
  | finished : Pieces table [] []
  | rewritten {c rest rewrite later} : table.FirstApplies (c :: rest) rewrite →
      Pieces table ((c :: rest).drop rewrite.encoded.length) later →
      Pieces table (c :: rest) (rewrite.canonical :: later)
  | copied {c rest later} : (∀ rewrite ∈ table, ¬ rewrite.encoded <+: asciiLower (c :: rest)) →
      Pieces table rest later → Pieces table (c :: rest) ([c] :: later)

variable {table : Table} {c : Char} {rest text : Text} {pieces : List Text}

theorem first?_eq_some_iff {rewrite : Rewrite} :
    table.first? text = some rewrite ↔ table.FirstApplies text rewrite := by
  simp only [first?, List.find?_eq_some_iff_append, Bool.not_eq_true', ← Bool.not_eq_true,
    Rewrite.opens_iff]
  constructor
  · rintro ⟨opens, earlier, later, shape, unmatched⟩
    exact ⟨earlier, later, shape, opens, unmatched⟩
  · rintro ⟨earlier, later, shape, opens, unmatched⟩
    exact ⟨opens, earlier, later, shape, unmatched⟩

theorem pieces_cons_iff :
    table.Pieces (c :: rest) pieces ↔
      ∃ later, pieces = (table.piece c rest).written :: later ∧
        table.Pieces ((c :: rest).drop (table.piece c rest).read) later := by
  cases found : table.first? (c :: rest) with
  | some rewrite =>
      have applies := first?_eq_some_iff.mp found
      rw [piece_of_first?_some found]
      constructor
      · intro cut
        cases cut with
        | rewritten again tail =>
            have same := first?_eq_some_iff.mpr again
            rw [found] at same
            obtain rfl := Option.some.inj same
            exact ⟨_, rfl, tail⟩
        | copied absent _ =>
            rw [(first?_eq_none_iff _ _).mpr absent] at found
            contradiction
      · rintro ⟨later, rfl, tail⟩
        exact .rewritten applies tail
  | none =>
      have absent := (first?_eq_none_iff _ _).mp found
      rw [piece_of_first?_none found]
      constructor
      · intro cut
        cases cut with
        | rewritten applies _ =>
            rw [first?_eq_some_iff.mpr applies] at found
            contradiction
        | copied _ tail => exact ⟨_, rfl, tail⟩
      · rintro ⟨later, rfl, tail⟩
        exact .copied absent tail

theorem pieces_nil_iff : table.Pieces [] pieces ↔ pieces = [] := by
  constructor
  · intro cut
    cases cut
    rfl
  · rintro rfl
    exact .finished

theorem Pieces.unique {others : List Text} (cut : table.Pieces text pieces)
    (other : table.Pieces text others) : others = pieces := by
  induction cut generalizing others with
  | finished => exact pieces_nil_iff.mp other
  | rewritten applies _ ih =>
      obtain ⟨later, rfl, tail⟩ := pieces_cons_iff.mp other
      rw [piece_of_first?_some (first?_eq_some_iff.mpr applies)] at tail ⊢
      rw [ih tail]
  | copied absent _ ih =>
      obtain ⟨later, rfl, tail⟩ := pieces_cons_iff.mp other
      rw [piece_of_first?_none ((first?_eq_none_iff _ _).mpr absent)] at tail ⊢
      rw [ih tail]

theorem exists_pieces (nonempty : ∀ rewrite ∈ table, rewrite.encoded ≠ []) (text : Text) :
    ∃ pieces, table.Pieces text pieces := by
  generalize size : text.length = length
  induction length using Nat.strongRecOn generalizing text with
  | ind length ih =>
      cases text with
      | nil => exact ⟨[], .finished⟩
      | cons c rest =>
          simp only [List.length_cons] at size
          cases found : table.first? (c :: rest) with
          | none =>
              obtain ⟨later, tail⟩ := ih rest.length (by omega) rest rfl
              exact ⟨_, .copied ((first?_eq_none_iff _ _).mp found) tail⟩
          | some rewrite =>
              have reads := List.length_pos_iff.mpr (nonempty rewrite (first?_some found).1)
              have shorter : ((c :: rest).drop rewrite.encoded.length).length < length := by
                simp only [List.length_drop, List.length_cons]
                omega
              obtain ⟨later, tail⟩ := ih _ shorter _ rfl
              exact ⟨_, .rewritten (first?_eq_some_iff.mp found) tail⟩

end Table

/-- The longest run of pieces from the first one on whose total length is within a capacity. -/
structure LongestFit (capacity : Nat) (pieces run : List Text) : Prop where
  opens : run <+: pieces
  fits : run.flatten.length ≤ capacity
  longest : ∀ other, other <+: pieces → other.flatten.length ≤ capacity → other <+: run

namespace LongestFit

variable {capacity : Nat} {piece : Text} {pieces run : List Text}

theorem none (exceeds : capacity < piece.length) : LongestFit capacity (piece :: pieces) [] := by
  refine ⟨List.nil_prefix, Nat.zero_le _, fun other opens fits => ?_⟩
  cases other with
  | nil => exact List.nil_prefix
  | cons first others =>
      obtain rfl := (List.cons_prefix_cons.mp opens).1
      simp only [List.flatten_cons, List.length_append] at fits
      omega

theorem cons (room : piece.length ≤ capacity)
    (tail : LongestFit (capacity - piece.length) pieces run) :
    LongestFit capacity (piece :: pieces) (piece :: run) := by
  have tailFits := tail.fits
  refine ⟨List.cons_prefix_cons.mpr ⟨rfl, tail.opens⟩, ?_, fun other opens fits => ?_⟩
  · simp only [List.flatten_cons, List.length_append]
    omega
  · cases other with
    | nil => exact List.nil_prefix
    | cons first others =>
        obtain ⟨rfl, later⟩ := List.cons_prefix_cons.mp opens
        simp only [List.flatten_cons, List.length_append] at fits
        exact List.cons_prefix_cons.mpr ⟨rfl, tail.longest others later (by omega)⟩

theorem mono {larger : Nat} {longer : List Text} (fit : LongestFit capacity pieces run)
    (other : LongestFit larger pieces longer) (room : capacity ≤ larger) : run <+: longer :=
  other.longest run fit.opens (Nat.le_trans fit.fits room)

theorem eq_iff (fit : LongestFit capacity pieces run) :
    run = pieces ↔ pieces.flatten.length ≤ capacity := by
  constructor
  · rintro rfl
    exact fit.fits
  · intro room
    have whole := fit.longest pieces (List.prefix_refl pieces) room
    exact fit.opens.eq_of_length_le whole.length_le

end LongestFit

theorem prefix_flatten {left right : List Text} (opens : left <+: right) :
    left.flatten <+: right.flatten := by
  obtain ⟨rest, rfl⟩ := opens
  rw [List.flatten_append]
  exact List.prefix_append left.flatten rest.flatten

theorem Table.Rewrites.longestFit {table : Table} {capacity : Nat} {text written left : Text}
    {pieces : List Text} (rewrites : table.Rewrites capacity text written left)
    (cut : table.Pieces text pieces) :
    ∃ run, LongestFit capacity pieces run ∧ written = run.flatten ∧
      (left = [] ↔ run = pieces) := by
  induction rewrites generalizing pieces with
  | finished =>
      obtain rfl := pieces_nil_iff.mp cut
      exact ⟨[], ⟨List.nil_prefix, Nat.zero_le _, fun _ opens _ => opens⟩, rfl, by simp⟩
  | full exceeds =>
      obtain ⟨later, rfl, _⟩ := pieces_cons_iff.mp cut
      exact ⟨[], .none exceeds, rfl, by simp⟩
  | move room _ ih =>
      obtain ⟨later, rfl, tail⟩ := pieces_cons_iff.mp cut
      obtain ⟨run, fit, rfl, complete⟩ := ih tail
      refine ⟨_ :: run, .cons room fit, rfl, ?_⟩
      rw [complete, List.cons_inj_right]

namespace Policy

variable (policy : Policy)

theorem length_finish_le (text : Text) : (policy.finish text).length ≤ text.length := by
  have collapsed := length_collapseFrom_le false text
  have both := length_collapseFrom_le false (asciiLower text)
  rw [length_asciiLower] at both
  unfold finish collapseBlanks
  cases policy.caseFold <;> cases policy.whitespaceCollapse
  · exact Nat.le_refl _
  · exact collapsed
  · exact Nat.le_of_eq (length_asciiLower text)
  · exact both

variable {policy}

theorem activeTable_encoded (nonempty : ∀ rewrite ∈ policy.table, rewrite.encoded ≠ []) :
    ∀ rewrite ∈ policy.activeTable, rewrite.encoded ≠ [] := by
  intro rewrite member
  unfold activeTable at member
  split at member
  · exact nonempty rewrite member
  · contradiction

theorem form_pieces (nonempty : ∀ rewrite ∈ policy.table, rewrite.encoded ≠ []) (capacity : Nat)
    {text : Text} {pieces : List Text} (cut : policy.activeTable.Pieces text pieces) :
    ∃ run, LongestFit capacity pieces run ∧
      (policy.form capacity text).text = policy.finish run.flatten ∧
      ((policy.form capacity text).truncated = false ↔ run = pieces) := by
  have progressive := Table.progressive_of_encoded (activeTable_encoded nonempty)
  obtain ⟨written, left, rewrites, formed⟩ := exists_rewrites progressive capacity text
  obtain ⟨run, fit, rfl, complete⟩ := rewrites.longestFit cut
  refine ⟨run, fit, ?_, ?_⟩
  · rw [formed]
  · rw [formed, ← complete]
    simp

theorem length_form_le_capacity (nonempty : ∀ rewrite ∈ policy.table, rewrite.encoded ≠ [])
    (capacity : Nat) (text : Text) : (policy.form capacity text).length ≤ capacity := by
  obtain ⟨pieces, cut⟩ := Table.exists_pieces (activeTable_encoded nonempty) text
  obtain ⟨run, fit, same, _⟩ := form_pieces nonempty capacity cut
  rw [Form.length, same]
  exact Nat.le_trans (policy.length_finish_le run.flatten) fit.fits

end Policy

theorem standard_canonical_length :
    ∀ rewrite ∈ Table.standard, rewrite.canonical.length ≤ rewrite.encoded.length := by
  decide +kernel

theorem Table.Pieces.length_le {table : Table}
    (shrinks : ∀ rewrite ∈ table, rewrite.canonical.length ≤ rewrite.encoded.length)
    {text : Text} {pieces : List Text} (cut : table.Pieces text pieces) :
    pieces.flatten.length ≤ text.length := by
  induction cut with
  | finished => exact Nat.le_refl 0
  | @rewritten c rest rewrite later applies _ ih =>
      obtain ⟨earlier, others, rfl, opens, _⟩ := applies
      have inside := opens.length_le
      have written := shrinks rewrite (by simp)
      rw [length_asciiLower] at inside
      rw [List.length_drop] at ih
      simp only [List.flatten_cons, List.length_append]
      omega
  | copied _ _ ih =>
      simp only [List.flatten_cons, List.length_append, List.length_cons, List.length_nil]
      omega

theorem Policy.length_form_le {policy : Policy} (standard : policy.table = .standard)
    (capacity : Nat) (text : Text) : (policy.form capacity text).length ≤ text.length := by
  have known := activeTable_subset standard
  have nonempty : ∀ rewrite ∈ policy.table, rewrite.encoded ≠ [] := fun rewrite member =>
    List.length_pos_iff.mp (Table.standard_encoded_length rewrite (standard ▸ member))
  obtain ⟨pieces, cut⟩ := Table.exists_pieces (activeTable_encoded nonempty) text
  obtain ⟨run, fit, same, _⟩ := form_pieces nonempty capacity cut
  have finished := policy.length_finish_le run.flatten
  have written := (prefix_flatten fit.opens).length_le
  have total := cut.length_le fun rewrite member =>
    standard_canonical_length rewrite (known rewrite member)
  rw [Form.length, same]
  omega

end ProtocolGate.Canonical
