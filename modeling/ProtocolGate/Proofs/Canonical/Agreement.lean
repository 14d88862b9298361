import ProtocolGate.Proofs.Canonical.Pieces

/-!
Equivalence as a relation between inputs, asked and demanded. Both answers rest on the canonical
forms of the two inputs and on nothing that the context has held before, and they agree: the demand
gives the common form exactly where the question is answered with yes.
-/

namespace ProtocolGate.Canonical.Context

variable {context : Context} {first second : Datum} {bound : Option Int}

theorem commonForm_self {form : Form} (complete : form.truncated = false) :
    commonForm form form = .ok form.text := by
  simp [commonForm, complete]

theorem commonForm_refused {firstForm secondForm : Form}
    (different : sameForm firstForm secondForm = false) :
    ∃ fault : Fault, fault.kind = .zeroTrustViolation ∧
      commonForm firstForm secondForm = .error fault := by
  unfold commonForm
  split
  · exact ⟨_, rfl, rfl⟩
  · rename_i complete
    split
    · exact ⟨_, rfl, rfl⟩
    · rename_i same
      simp_all [sameForm]

theorem requireEquivalent_answer (context : Context) (first second : Datum)
    (bound : Option Int) :
    (context.requireEquivalent first second bound).1 =
      (context.normalize first bound).1.bind fun firstForm =>
        (context.normalize second bound).1.bind (commonForm firstForm) := by
  simp only [requireEquivalent, normalizeBoth_answer]
  cases (context.normalize first bound).1 with
  | error fault => rfl
  | ok firstForm => cases (context.normalize second bound).1 <;> rfl

def Admits (context : Context) (bound : Option Int) (data : Datum) : Prop :=
  (∃ text, inputText data = .ok text) ∧ 1 ≤ bound.getD context.bufferSize

theorem Admits.normalize {data : Datum} (admitted : context.Admits bound data) :
    ∃ form, (context.normalize data bound).1 = .ok form := by
  obtain ⟨⟨text, read⟩, room⟩ := admitted
  rw [normalize_of_inputText read room]
  exact ⟨_, rfl⟩

theorem normalize_refused {data : Datum} (refused : ¬ context.Admits bound data) :
    ∃ fault : Fault, fault.kind = .invalidInput ∧
      (context.normalize data bound).1 = .error fault := by
  unfold Context.normalize
  split
  · rename_i fault unread
    exact ⟨fault, inputText_error unread, rfl⟩
  · rename_i text read
    dsimp only
    split
    · exact ⟨_, rfl, rfl⟩
    · rename_i room
      exact absurd ⟨⟨text, read⟩, by omega⟩ refused

inductive Call where
  | normalize (data : Datum) (bound : Option Int)
  | equivalent (first second : Datum) (bound : Option Int)
  | requireEquivalent (first second : Datum) (bound : Option Int)

def afterCall (context : Context) : Call → Context
  | .normalize data bound => (context.normalize data bound).2
  | .equivalent first second bound => (context.equivalent first second bound).2
  | .requireEquivalent first second bound => (context.requireEquivalent first second bound).2

def afterCalls (context : Context) (calls : List Call) : Context :=
  calls.foldl afterCall context

theorem afterCall_holds (context : Context) (call : Call) :
    ∃ held, context.afterCall call = context.holding held := by
  cases call with
  | normalize data bound => exact context.normalize_holds data bound
  | equivalent first second bound => exact context.normalizeBoth_holds first second bound
  | requireEquivalent first second bound => exact context.normalizeBoth_holds first second bound

theorem afterCalls_holds (context : Context) (calls : List Call) :
    ∃ held, context.afterCalls calls = context.holding held := by
  induction calls generalizing context with
  | nil => exact ⟨context.held, rfl⟩
  | cons call calls ih =>
      obtain ⟨held, after⟩ := context.afterCall_holds call
      obtain ⟨heldLater, later⟩ := ih (context.afterCall call)
      refine ⟨heldLater, ?_⟩
      rw [afterCalls, List.foldl_cons]
      rw [afterCalls] at later
      rw [later, after]
      rfl

theorem equivalent_cases (admitted : context.Admits bound first)
    (admittedToo : context.Admits bound second) :
    ((context.equivalent first second bound).1 = .ok true ∧
        ∃ form, (context.normalize first bound).1 = .ok form ∧
          (context.normalize second bound).1 = .ok form ∧
          (context.requireEquivalent first second bound).1 = .ok form.text) ∨
      ((context.equivalent first second bound).1 = .ok false ∧
        ∃ fault : Fault, fault.kind = .zeroTrustViolation ∧
          (context.requireEquivalent first second bound).1 = .error fault) := by
  obtain ⟨form, firstForm⟩ := admitted.normalize
  obtain ⟨other, secondForm⟩ := admittedToo.normalize
  rw [equivalent_answer, requireEquivalent_answer, firstForm, secondForm]
  cases same : sameForm form other with
  | true =>
      obtain ⟨complete, rfl⟩ := sameForm_iff.mp same
      exact .inl ⟨congrArg Except.ok same, other, rfl, rfl, commonForm_self complete⟩
  | false =>
      obtain ⟨fault, kind, refused⟩ := commonForm_refused same
      exact .inr ⟨congrArg Except.ok same, fault, kind, refused⟩

theorem equivalent_refused
    (refused : ¬ (context.Admits bound first ∧ context.Admits bound second)) :
    ∃ fault : Fault, fault.kind = .invalidInput ∧
      (context.equivalent first second bound).1 = .error fault ∧
      (context.requireEquivalent first second bound).1 = .error fault := by
  rw [equivalent_answer, requireEquivalent_answer]
  by_cases admitted : context.Admits bound first
  · obtain ⟨form, firstForm⟩ := admitted.normalize
    obtain ⟨fault, kind, secondFault⟩ :=
      normalize_refused fun admittedToo => refused ⟨admitted, admittedToo⟩
    rw [firstForm, secondFault]
    exact ⟨fault, kind, rfl, rfl⟩
  · obtain ⟨fault, kind, firstFault⟩ := normalize_refused admitted
    rw [firstFault]
    exact ⟨fault, kind, rfl, rfl⟩

theorem equivalent_canonical (standard : context.policy.table = .standard)
    (encoding : context.policy.encodingNormalize = true) {data : Datum} {form : Form}
    (normalized : (context.normalize data bound).1 = .ok form)
    (complete : form.truncated = false) :
    (context.equivalent data (.text form.text) bound).1 = .ok true := by
  refine equivalent_iff.mpr ⟨form, complete, normalized, ?_⟩
  obtain ⟨text, _, room, shape⟩ := inputText_of_normalize normalized
  have nonempty : ∀ rewrite ∈ context.policy.table, rewrite.encoded ≠ [] := fun rewrite member =>
    List.length_pos_iff.mp (Table.standard_encoded_length rewrite (standard ▸ member))
  have fits : form.length ≤ (bound.getD context.bufferSize - 1).toNat := by
    rw [shape]
    exact Policy.length_form_le_capacity nonempty _ text
  have clean : Clean context.policy form.text := by
    rw [shape]
    exact clean_form standard encoding _ text
  rw [normalize_of_inputText rfl room, form_of_clean standard encoding clean fits, ← complete]

/-- Equivalence is symmetric and transitive, and an input is equivalent to itself, and under the
standard table to its canonical form, exactly if that form is complete. No earlier call has a part
in the answers. Asking and demanding leave the same context; for inputs that are no texts and bounds
without room they fail with the same fault, and else the demand gives the common form if the
question is answered with yes and a violation if it is answered with no. -/
theorem equivalent_agrees (context : Context) (bound : Option Int) :
    (∀ first second, (context.equivalent first second bound).1 = .ok true →
      (context.equivalent second first bound).1 = .ok true) ∧
    (∀ first second third, (context.equivalent first second bound).1 = .ok true →
      (context.equivalent second third bound).1 = .ok true →
      (context.equivalent first third bound).1 = .ok true) ∧
    (∀ data, context.Admits bound data → ∃ form, (context.normalize data bound).1 = .ok form ∧
      ((context.equivalent data data bound).1 = .ok true ↔ form.truncated = false) ∧
      (context.policy.table = .standard → context.policy.encodingNormalize = true →
        form.truncated = false →
        (context.equivalent data (.text form.text) bound).1 = .ok true)) ∧
    (∀ calls first second,
      ((context.afterCalls calls).equivalent first second bound).1 =
        (context.equivalent first second bound).1 ∧
      ((context.afterCalls calls).requireEquivalent first second bound).1 =
        (context.requireEquivalent first second bound).1) ∧
    (∀ first second, context.Admits bound first → context.Admits bound second →
      ((context.equivalent first second bound).1 = .ok true ∧
        ∃ form, (context.normalize first bound).1 = .ok form ∧
          (context.normalize second bound).1 = .ok form ∧
          (context.requireEquivalent first second bound).1 = .ok form.text) ∨
      ((context.equivalent first second bound).1 = .ok false ∧
        ∃ fault : Fault, fault.kind = .zeroTrustViolation ∧
          (context.requireEquivalent first second bound).1 = .error fault)) ∧
    (∀ first second, (context.equivalent first second bound).2 =
      (context.requireEquivalent first second bound).2) ∧
    (∀ first second, ¬ (context.Admits bound first ∧ context.Admits bound second) →
      ∃ fault : Fault, fault.kind = .invalidInput ∧
        (context.equivalent first second bound).1 = .error fault ∧
        (context.requireEquivalent first second bound).1 = .error fault) := by
  refine ⟨?_, ?_, ?_, ?_, ?_, fun _ _ => rfl, ?_⟩
  · intro first second same
    obtain ⟨form, complete, firstForm, secondForm⟩ := equivalent_iff.mp same
    exact equivalent_iff.mpr ⟨form, complete, secondForm, firstForm⟩
  · intro first second third same sameToo
    obtain ⟨form, complete, firstForm, secondForm⟩ := equivalent_iff.mp same
    obtain ⟨other, _, secondFormToo, thirdForm⟩ := equivalent_iff.mp sameToo
    obtain rfl := Except.ok.inj (secondForm.symm.trans secondFormToo)
    exact equivalent_iff.mpr ⟨form, complete, firstForm, thirdForm⟩
  · intro data admitted
    obtain ⟨form, normalized⟩ := admitted.normalize
    refine ⟨form, normalized, ?_, fun standard encoding complete =>
      equivalent_canonical standard encoding normalized complete⟩
    rw [equivalent_iff]
    constructor
    · rintro ⟨other, complete, found, _⟩
      obtain rfl := Except.ok.inj (normalized.symm.trans found)
      exact complete
    · intro complete
      exact ⟨form, complete, normalized, normalized⟩
  · intro calls first second
    obtain ⟨held, after⟩ := context.afterCalls_holds calls
    simp only [equivalent_answer, requireEquivalent_answer, after, normalize_holding, and_self]
  · intro first second admitted admittedToo
    exact equivalent_cases admitted admittedToo
  · intro first second refused
    exact equivalent_refused refused

theorem equivalent_agrees_path :
    (({} : Context).equivalent (.bytes [37, 50, 101, 46, 47]) (.text "..%2F".toList) (some 9)).1 =
      .ok true ∧
    (({} : Context).equivalent (.text "../".toList) (.text "..%2F".toList) (some 9)).1 = .ok true ∧
    ((({} : Context).afterCalls [.requireEquivalent .nothing (.int 1) none,
      .normalize (.text "x".toList) (some 4)]).requireEquivalent (.bytes [37, 50, 101, 46, 47])
        (.text "../".toList) (some 9)).1 = .ok "../".toList ∧
    (({} : Context).equivalent (.text "..%2F".toList) (.text "..%2F".toList) (some 3)).1 ≠ .ok true ∧
    (∃ fault : Fault, fault.kind = .invalidInput ∧
      (({} : Context).equivalent (.text "../".toList) (.int 1) (some 9)).1 = .error fault ∧
      (({} : Context).requireEquivalent (.text "../".toList) (.int 1) (some 9)).1 =
        .error fault) := by
  obtain ⟨symmetric, transitive, reflexive, earlier, agree, _, refused⟩ :=
    equivalent_agrees {} (some 9)
  have admits (data : Datum) (text : Text) (read : inputText data = .ok text) (bound : Int)
      (room : 1 ≤ bound) : Admits {} (some bound) data := ⟨⟨text, read⟩, room⟩
  have encoded : (({} : Context).equivalent (.text "..%2F".toList) (.text "../".toList)
      (some 9)).1 = .ok true := by
    obtain ⟨form, normalized, _, canonical⟩ :=
      reflexive _ (admits (.text "..%2F".toList) _ rfl 9 (by decide))
    obtain rfl : form = { text := "../".toList } := Except.ok.inj (normalized.symm.trans rfl)
    exact canonical rfl rfl rfl
  have mixed : (({} : Context).equivalent (.bytes [37, 50, 101, 46, 47]) (.text "..%2F".toList)
      (some 9)).1 = .ok true := by rfl
  have path := transitive _ _ _ mixed encoded
  refine ⟨mixed, symmetric _ _ encoded, ?_, ?_, ?_⟩
  · rw [(earlier _ _ _).2]
    rcases agree _ _ (admits (.bytes [37, 50, 101, 46, 47]) _ rfl 9 (by decide))
        (admits (.text "../".toList) _ rfl 9 (by decide)) with
      ⟨_, form, _, normalized, demanded⟩ | ⟨different, _⟩
    · obtain rfl : form = { text := "../".toList } := Except.ok.inj (normalized.symm.trans rfl)
      exact demanded
    · rw [path] at different
      exact absurd (Except.ok.inj different) (by decide)
  · obtain ⟨form, normalized, complete, _⟩ := (equivalent_agrees {} (some 3)).2.2.1 _
      (admits (.text "..%2F".toList) _ rfl 3 (by decide))
    obtain rfl : form = { text := "..".toList, truncated := true } :=
      Except.ok.inj (normalized.symm.trans rfl)
    rw [Ne, complete]
    decide
  · refine refused _ _ fun admitted => ?_
    obtain ⟨⟨text, read⟩, _⟩ := admitted.2
    contradiction

end ProtocolGate.Canonical.Context
