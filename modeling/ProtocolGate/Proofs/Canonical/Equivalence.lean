import ProtocolGate.Canonical.Equivalence
import ProtocolGate.Proofs.Canonical.Clean

/-!
Equivalent inputs. A normalisation changes the holding area of its context and nothing else, so two
equivalent inputs have one form from the same context; and a complete form is empty only if its
input is.
-/

namespace ProtocolGate

theorem collapseBlanks_nonempty {text : Text} (nonempty : text ≠ []) :
    collapseBlanks text ≠ [] := by
  obtain ⟨c, rest, rfl⟩ := List.exists_cons_of_ne_nil nonempty
  unfold collapseBlanks
  by_cases blank : isBlank c = true
  · simp [collapseFrom_cons_blank blank]
  · simp only [Bool.not_eq_true] at blank
    simp [collapseFrom_cons_other blank]

namespace Canonical

theorem inputText_error {data : Datum} {fault : Fault} (refused : inputText data = .error fault) :
    fault.kind = .invalidInput := by
  cases data with
  | text | bytes | byteBuffer => contradiction
  | nothing | truth | int | float | list | record =>
      obtain rfl := Except.error.inj refused
      rfl

namespace Policy

theorem finish_nonempty (policy : Policy) {text : Text} (nonempty : text ≠ []) :
    policy.finish text ≠ [] := by
  have lowered : asciiLower text ≠ [] := by simpa [asciiLower] using nonempty
  unfold finish
  cases policy.caseFold <;> cases policy.whitespaceCollapse
  · exact nonempty
  · exact collapseBlanks_nonempty nonempty
  · exact lowered
  · exact collapseBlanks_nonempty lowered

theorem activeTable_subset {policy : Policy} (standard : policy.table = .standard) :
    ∀ rewrite ∈ policy.activeTable, rewrite ∈ Table.standard := by
  intro rewrite member
  unfold activeTable at member
  split at member
  · rwa [standard] at member
  · simp at member

theorem form_text_eq_nil_iff {policy : Policy} (standard : policy.table = .standard)
    {capacity : Nat} {text : Text} (complete : (policy.form capacity text).truncated = false) :
    (policy.form capacity text).text = [] ↔ text = [] := by
  have known := activeTable_subset standard
  have progressive : policy.activeTable.Progressive :=
    Table.progressive_of_encoded fun rewrite member =>
      List.length_pos_iff.mp (Table.standard_encoded_length rewrite (known rewrite member))
  obtain ⟨written, left, run, formed⟩ := exists_rewrites progressive capacity text
  rw [formed] at complete ⊢
  obtain rfl : left = [] := by simpa using complete
  constructor
  · intro empty
    cases run with
    | finished => rfl
    | @move _ c rest written _ fits tail =>
        have wrote : (policy.activeTable.piece c rest).written ≠ [] := by
          cases found : policy.activeTable.first? (c :: rest) with
          | none => simp [Table.piece_of_first?_none found]
          | some rewrite =>
              rw [Table.piece_of_first?_some found]
              have member := known rewrite (Table.first?_some found).1
              exact (standard_canonical_plain rewrite member).1
        exact absurd empty (policy.finish_nonempty (by simp [wrote]))
  · rintro rfl
    cases run with
    | finished => simp [finish, collapseBlanks]

end Policy

namespace Context

def holding (context : Context) (held : Text) : Context :=
  { context with held }

theorem hold_eq_holding (context : Context) (form : Form) :
    ∃ held, context.hold form = context.holding held := by
  unfold hold
  split
  · exact ⟨form.text, rfl⟩
  · exact ⟨context.held, rfl⟩

theorem normalize_cases (context : Context) (data : Datum) (bound : Option Int) :
    (∃ fault, context.normalize data bound = (.error fault, context)) ∨
      ∃ form, context.normalize data bound = (.ok form, context.hold form) := by
  unfold normalize
  split
  · exact .inl ⟨_, rfl⟩
  · dsimp only
    split
    · exact .inl ⟨_, rfl⟩
    · exact .inr ⟨_, rfl⟩

theorem normalize_holds (context : Context) (data : Datum) (bound : Option Int) :
    ∃ held, (context.normalize data bound).2 = context.holding held := by
  rcases context.normalize_cases data bound with ⟨fault, refused⟩ | ⟨form, normalized⟩
  · rw [refused]
    exact ⟨context.held, rfl⟩
  · rw [normalized]
    exact context.hold_eq_holding form

theorem normalize_ok {context : Context} {data : Datum} {bound : Option Int} {form : Form}
    (normalized : (context.normalize data bound).1 = .ok form) :
    context.normalize data bound = (.ok form, context.hold form) := by
  rcases context.normalize_cases data bound with ⟨fault, refused⟩ | ⟨other, found⟩
  · rw [refused] at normalized
    contradiction
  · rw [found] at normalized ⊢
    obtain rfl := Except.ok.inj normalized
    rfl

theorem normalize_holding (context : Context) (held : Text) (data : Datum) (bound : Option Int) :
    ((context.holding held).normalize data bound).1 = (context.normalize data bound).1 := by
  unfold normalize
  split
  · rfl
  · dsimp only [holding]
    split <;> rfl

theorem normalizeBoth_holds (context : Context) (first second : Datum) (bound : Option Int) :
    ∃ held, (context.normalizeBoth first second bound).2 = context.holding held := by
  obtain ⟨held, before⟩ := context.normalize_holds first bound
  unfold normalizeBoth
  split
  · rename_i refused
    rw [refused] at before
    exact ⟨held, before⟩
  · rename_i form middle normalized
    rw [normalized] at before
    obtain ⟨heldAfter, after⟩ := middle.normalize_holds second bound
    split <;> rename_i result <;> rw [result] at after <;> dsimp only at before after ⊢ <;>
      exact ⟨heldAfter, by rw [after, before]; rfl⟩

theorem normalizeBoth_answer (context : Context) (first second : Datum) (bound : Option Int) :
    (context.normalizeBoth first second bound).1 =
      (context.normalize first bound).1.bind fun firstForm =>
        (context.normalize second bound).1.map fun secondForm => (firstForm, secondForm) := by
  unfold normalizeBoth
  rcases context.normalize_cases first bound with ⟨fault, refused⟩ | ⟨form, normalized⟩
  · rw [refused]
    rfl
  · obtain ⟨held, keeps⟩ := context.hold_eq_holding form
    have answered := context.normalize_holding held second bound
    rw [normalized, keeps]
    dsimp only [Except.bind]
    rw [← answered]
    split <;> rename_i found <;> rw [found] <;> rfl

theorem sameForm_iff {first second : Form} :
    sameForm first second = true ↔ first.truncated = false ∧ second = first := by
  simp only [sameForm, Bool.and_eq_true, Bool.not_eq_true', beq_iff_eq]
  constructor
  · rintro ⟨⟨complete, completeToo⟩, same⟩
    cases first
    cases second
    simp_all
  · rintro ⟨complete, rfl⟩
    exact ⟨⟨complete, complete⟩, rfl⟩

theorem equivalent_answer (context : Context) (first second : Datum) (bound : Option Int) :
    (context.equivalent first second bound).1 =
      (context.normalize first bound).1.bind fun firstForm =>
        (context.normalize second bound).1.map (sameForm firstForm) := by
  simp only [equivalent, normalizeBoth_answer]
  cases (context.normalize first bound).1 with
  | error fault => rfl
  | ok firstForm => cases (context.normalize second bound).1 <;> rfl

theorem equivalent_iff {context : Context} {first second : Datum} {bound : Option Int} :
    (context.equivalent first second bound).1 = .ok true ↔
      ∃ form : Form, form.truncated = false ∧ (context.normalize first bound).1 = .ok form ∧
        (context.normalize second bound).1 = .ok form := by
  rw [equivalent_answer]
  constructor
  · intro same
    cases firstForm : (context.normalize first bound).1 with
    | error fault =>
        rw [firstForm] at same
        contradiction
    | ok form =>
        cases secondForm : (context.normalize second bound).1 with
        | error fault =>
            rw [firstForm, secondForm] at same
            contradiction
        | ok other =>
            rw [firstForm, secondForm] at same
            obtain ⟨complete, rfl⟩ := sameForm_iff.mp (Except.ok.inj same)
            exact ⟨_, complete, rfl, rfl⟩
  · rintro ⟨form, complete, firstForm, secondForm⟩
    rw [firstForm, secondForm]
    exact congrArg Except.ok (sameForm_iff.mpr ⟨complete, rfl⟩)

theorem equivalent_form {context : Context} {first second : Datum} {bound : Option Int}
    (same : (context.equivalent first second bound).1 = .ok true) :
    ∃ form : Form, form.truncated = false ∧
      context.normalize first bound = (.ok form, context.hold form) ∧
      context.normalize second bound = (.ok form, context.hold form) := by
  obtain ⟨form, complete, firstForm, secondForm⟩ := equivalent_iff.mp same
  exact ⟨form, complete, normalize_ok firstForm, normalize_ok secondForm⟩

end Context

end Canonical

end ProtocolGate
