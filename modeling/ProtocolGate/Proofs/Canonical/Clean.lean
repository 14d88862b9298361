import ProtocolGate.Proofs.Canonical.Rewriting

/-!
Canonical forms under the standard table. They hold no encoded form, no capital and no blank run,
and the texts with these three properties are the ones that canonicalisation leaves alone.
-/

namespace ProtocolGate.Canonical

def codes : List Text :=
  ["%2f".toList, "%2e".toList, "%20".toList, "%c0%af".toList, "%c0%ae".toList, "%3a".toList,
    "%7c".toList]

def isCodeChar (c : Char) : Bool :=
  "%02378acef".toList.contains c

def Uncoded (text : Text) : Prop :=
  ∀ code ∈ codes, ¬ code <:+: asciiLower text

theorem code_nonempty : ∀ code ∈ codes, code ≠ [] := by decide +kernel

theorem isCodeChar_of_mem_code : ∀ code ∈ codes, ∀ c ∈ code, isCodeChar c = true := by
  have checked : codes.all (fun code => code.all isCodeChar) = true := by decide +kernel
  simpa only [List.all_eq_true] using checked

theorem code_solid : ∀ code ∈ codes, ∀ c ∈ code, isBlank c = false := by
  have checked : codes.all (fun code => code.all fun c => !isBlank c) = true := by decide +kernel
  simpa only [List.all_eq_true, Bool.not_eq_true'] using checked

theorem code_encoded : ∀ code ∈ codes, ∃ rewrite ∈ Table.standard, rewrite.encoded = code := by
  decide +kernel

theorem standard_contains_code :
    ∀ rewrite ∈ Table.standard, ∃ code ∈ codes, code <:+: rewrite.encoded := by decide +kernel

theorem standard_canonical_plain : ∀ rewrite ∈ Table.standard, rewrite.canonical ≠ [] ∧
    ∀ c ∈ asciiLower rewrite.canonical, isCodeChar c = false := by
  have nonempty : ∀ rewrite ∈ Table.standard, rewrite.canonical ≠ [] := by decide +kernel
  have checked : Table.standard.all (fun rewrite =>
      (asciiLower rewrite.canonical).all fun c => !isCodeChar c) = true := by decide +kernel
  simp only [List.all_eq_true, Bool.not_eq_true'] at checked
  exact fun rewrite listed => ⟨nonempty rewrite listed, checked rewrite listed⟩

theorem first?_ne_none_of_code {code text : Text} (member : code ∈ codes)
    (opens : code <+: asciiLower text) : Table.standard.first? text ≠ none := by
  intro absent
  obtain ⟨rewrite, listed, same⟩ := code_encoded code member
  exact (Table.first?_eq_none_iff _ _).mp absent rewrite listed (same ▸ opens)

theorem infix_right_of_disjoint {form left right : Text} (nonempty : form ≠ [])
    (disjoint : ∀ c ∈ left, c ∉ form) (occurs : form <:+: left ++ right) : form <:+: right := by
  induction left with
  | nil => simpa using occurs
  | cons c left ih =>
      rw [List.cons_append, List.infix_cons_iff] at occurs
      refine ih (fun d member => disjoint d (by simp [member])) (occurs.resolve_left ?_)
      intro opens
      obtain ⟨d, tail, rfl⟩ := List.exists_cons_of_ne_nil nonempty
      rw [List.cons_prefix_cons] at opens
      exact disjoint c (by simp) (by simp [opens.1])

/-- Characters of codes are never written by a rewrite, so what they open was copied. -/
theorem prefix_of_rewrites {form text written left : Text} {capacity : Nat}
    (coded : ∀ c ∈ form, isCodeChar c = true)
    (run : Table.standard.Rewrites capacity text written left)
    (opens : form <+: asciiLower written) : form <+: asciiLower text := by
  induction form generalizing capacity text written with
  | nil => simp
  | cons expected form ih =>
      cases run with
      | finished => exact opens
      | full _ => simp at opens
      | @move _ c rest written _ _ tail =>
          cases found : Table.standard.first? (c :: rest) with
          | some rewrite =>
              rw [Table.piece_of_first?_some found] at opens
              have plain := standard_canonical_plain rewrite (Table.first?_some found).1
              obtain ⟨d, others, shape⟩ := List.exists_cons_of_ne_nil plain.1
              simp only [shape, List.cons_append, asciiLower_cons, List.cons_prefix_cons] at opens
              have written := plain.2 d.toLower (by simp [shape])
              rw [← opens.1, coded expected (by simp)] at written
              contradiction
          | none =>
              rw [Table.piece_of_first?_none found] at opens tail
              simp only [List.cons_append, List.nil_append, asciiLower_cons,
                List.cons_prefix_cons] at opens ⊢
              exact ⟨opens.1, ih (fun d member => coded d (by simp [member])) tail opens.2⟩

theorem uncoded_of_rewrites {capacity : Nat} {text written left : Text}
    (run : Table.standard.Rewrites capacity text written left) : Uncoded written := by
  induction run with
  | finished | full =>
      intro code member occurs
      exact code_nonempty code member (by simpa using occurs)
  | @move capacity c rest written left fits tail ih =>
      intro code member occurs
      cases found : Table.standard.first? (c :: rest) with
      | some rewrite =>
          rw [Table.piece_of_first?_some found, asciiLower_append] at occurs
          have plain := standard_canonical_plain rewrite (Table.first?_some found).1
          refine ih code member
            (infix_right_of_disjoint (code_nonempty code member) ?_ occurs)
          intro d written inCode
          have coded := isCodeChar_of_mem_code code member d inCode
          rw [plain.2 d written] at coded
          contradiction
      | none =>
          have whole := Table.Rewrites.move fits tail
          rw [Table.piece_of_first?_none found] at occurs whole
          simp only [List.cons_append, List.nil_append, asciiLower_cons,
            List.infix_cons_iff] at occurs
          rcases occurs with opens | later
          -- A code that opens what is written was copied, but then a rewrite had applied there.
          · refine first?_ne_none_of_code member ?_ found
            exact prefix_of_rewrites (isCodeChar_of_mem_code code member) whole opens
          · exact ih code member later

theorem uncoded_asciiLower {text : Text} (uncoded : Uncoded text) :
    Uncoded (asciiLower text) := by
  simpa [Uncoded] using uncoded

theorem uncoded_collapseBlanks {text : Text} (uncoded : Uncoded text) :
    Uncoded (collapseBlanks text) := by
  intro code member occurs
  rw [collapseBlanks, asciiLower_collapseFrom] at occurs
  exact uncoded code member
    (infix_of_infix_collapseFrom (code_nonempty code member) (code_solid code member) occurs)

theorem uncoded_finish (policy : Policy) {text : Text} (uncoded : Uncoded text) :
    Uncoded (policy.finish text) := by
  have folded : Uncoded (if policy.caseFold then asciiLower text else text) := by
    split
    · exact uncoded_asciiLower uncoded
    · exact uncoded
  unfold Policy.finish
  dsimp only
  split
  · exact uncoded_collapseBlanks folded
  · exact folded

theorem find?_eq_none_of_uncoded {text : Text} (uncoded : Uncoded text) (position : Int) :
    Table.standard.find? text position = none := by
  rw [Table.find?, List.find?_eq_none]
  intro rewrite member found
  obtain ⟨code, listed, inside⟩ := standard_contains_code rewrite member
  exact uncoded code listed (inside.trans (Rewrite.infix_of_occursAt found))

theorem rewrites_verbatim {table : Table} {text : Text} {capacity : Nat}
    (absent : ∀ rest, rest <:+ text → table.first? rest = none)
    (room : text.length ≤ capacity) : table.Rewrites capacity text text [] := by
  induction text generalizing capacity with
  | nil => exact .finished
  | cons c rest ih =>
      simp only [List.length_cons] at room
      refine .copy (absent _ (List.suffix_refl _)) (by omega) (ih ?_ (by omega))
      intro later suffix
      exact absent later (suffix.trans (List.suffix_cons c rest))

/-- What a canonical form can no longer hold: an encoded form at any place, a capital where letters
are lowered, and a blank other than a lone space where blank runs collapse. -/
structure Clean (policy : Policy) (text : Text) : Prop where
  noEncoding : ∀ position, policy.table.find? text position = none
  noCapital : policy.caseFold = true → ∀ c ∈ text, ¬ IsCapital c
  noBlankRun : policy.whitespaceCollapse = true →
    (∀ c ∈ text, c ≠ '\t' ∧ c ≠ '\n' ∧ c ≠ '\r') ∧ ¬ [' ', ' '] <:+: text

theorem Clean.first?_eq_none {policy : Policy} {text rest : Text} (clean : Clean policy text)
    (suffix : rest <:+ text) : policy.table.first? rest = none := by
  have absent := clean.noEncoding ((text.length - rest.length : Nat) : Int)
  rwa [Table.find?_natural _ (Nat.sub_le _ _), ← List.suffix_iff_eq_drop.mp suffix] at absent

theorem finish_not_capital {policy : Policy} (folds : policy.caseFold = true) (text : Text) :
    ∀ c ∈ policy.finish text, ¬ IsCapital c := by
  intro c member
  simp only [Policy.finish, folds, if_true] at member
  split at member
  · rcases eq_space_of_mem_collapseFrom member with space | found
    · subst space
      exact not_capital_toLower ' '
    · exact not_capital_of_mem_asciiLower found.1
  · exact not_capital_of_mem_asciiLower member

theorem finish_no_blank_run {policy : Policy} (collapses : policy.whitespaceCollapse = true)
    (text : Text) : (∀ c ∈ policy.finish text, c ≠ '\t' ∧ c ≠ '\n' ∧ c ≠ '\r') ∧
      ¬ [' ', ' '] <:+: policy.finish text := by
  simp only [Policy.finish, collapses, if_true]
  refine ⟨?_, (not_spaces_collapseFrom false _).1⟩
  intro c member
  rcases eq_space_of_mem_collapseFrom member with space | ⟨_, solid⟩
  · subst space
    decide
  · refine ⟨?_, ?_, ?_⟩ <;> rintro rfl <;> simp [isBlank] at solid

theorem Clean.finish_eq {policy : Policy} {text : Text} (clean : Clean policy text) :
    policy.finish text = text := by
  have folded : (if policy.caseFold then asciiLower text else text) = text := by
    split
    · rename_i folds
      exact asciiLower_eq_self (clean.noCapital folds)
    · rfl
  simp only [Policy.finish, folded]
  split
  · rename_i collapses
    obtain ⟨blanks, apart⟩ := clean.noBlankRun collapses
    refine collapseFrom_eq_self false ?_ apart (by simp)
    intro c member blank
    have others := blanks c member
    simpa [isBlank, others] using blank
  · rfl

section Standard

variable {policy : Policy} (standard : policy.table = .standard)
  (encoding : policy.encodingNormalize = true)

include standard encoding

theorem clean_form (capacity : Nat) (text : Text) :
    Clean policy (policy.form capacity text).text := by
  have active := Policy.activeTable_standard standard encoding
  obtain ⟨written, left, run, form⟩ :=
    Policy.exists_rewrites (active ▸ Table.standard_progressive) capacity text
  rw [active] at run
  rw [form]
  refine ⟨?_, fun folds => finish_not_capital folds written,
    fun collapses => finish_no_blank_run collapses written⟩
  rw [standard]
  exact find?_eq_none_of_uncoded (uncoded_finish policy (uncoded_of_rewrites run))

theorem form_of_clean {capacity : Nat} {text : Text} (clean : Clean policy text)
    (room : text.length ≤ capacity) : policy.form capacity text = { text, truncated := false } := by
  have active := Policy.activeTable_standard standard encoding
  have run : policy.activeTable.Rewrites capacity text text [] := by
    rw [active, ← standard]
    exact rewrites_verbatim (fun rest suffix => clean.first?_eq_none suffix) room
  rw [Policy.form_of_rewrites (active ▸ Table.standard_progressive) run, clean.finish_eq]
  rfl

end Standard

/-- Canonical forms are clean, the clean texts that fit are the ones that canonicalisation returns
unchanged, and so a second canonicalisation under a large enough bound changes nothing. -/
theorem normalize_clean (context : Context) (standard : context.policy.table = .standard)
    (encoding : context.policy.encodingNormalize = true) :
    (∀ data text (bound : Option Int), inputText data = .ok text →
      1 ≤ bound.getD context.bufferSize →
      ∃ form, (context.normalize data bound).1 = .ok form ∧ Clean context.policy form.text) ∧
    (∀ (text : Text) (bound : Int), text.length < bound →
      (Clean context.policy text ↔
        (context.normalize (.text text) (some bound)).1 = .ok { text, truncated := false })) ∧
    (∀ data form (first : Option Int) (second : Int),
      (context.normalize data first).1 = .ok form → form.length < second →
      ((context.normalize data first).2.normalize (.text form.text) (some second)).1 =
        .ok { text := form.text, truncated := false }) := by
  have cleanForm := clean_form standard encoding
  refine ⟨?_, ?_, ?_⟩
  · intro data text bound read room
    rw [Context.normalize_of_inputText read room]
    exact ⟨_, rfl, cleanForm _ text⟩
  · intro text bound fits
    rw [Context.normalize_text context text (by omega), Except.ok.injEq]
    constructor
    · intro clean
      exact form_of_clean standard encoding clean (by omega)
    · intro same
      have form := cleanForm (bound - 1).toNat text
      rwa [same] at form
  · intro data form first second normalized fits
    obtain ⟨text, _, _, computed⟩ := Context.inputText_of_normalize normalized
    have clean : Clean context.policy form.text := computed ▸ cleanForm _ text
    simp only [Form.length] at fits
    rw [Context.normalize_text _ form.text (by omega), Context.normalize_policy,
      form_of_clean standard encoding clean (by omega)]

theorem normalize_clean_nested :
    Clean {} ".../%.2e a".toList ∧
      (({} : Context).normalize (.text ".%2e%2E/%%2e2e\t A".toList) (some 12)).1 =
        .ok { text := ".../%.2e a".toList } ∧
      (({} : Context).normalize (.text ".../%.2e a".toList) (some 11)).1 =
        .ok { text := ".../%.2e a".toList } ∧
      ((({} : Context).normalize (.text ".%2e%2E/%%2e2e\t A".toList) (some 12)).2.normalize
        (.text ".../%.2e a".toList) (some 11)).1 = .ok { text := ".../%.2e a".toList } := by
  obtain ⟨clean, fixed, again⟩ := normalize_clean {} rfl rfl
  have normalized : (({} : Context).normalize (.text ".%2e%2E/%%2e2e\t A".toList) (some 12)).1 =
      .ok { text := ".../%.2e a".toList } := by rfl
  obtain ⟨form, same, cleanForm⟩ :=
    clean (.text ".%2e%2E/%%2e2e\t A".toList) _ (some 12) rfl (by decide)
  have shape : form = { text := ".../%.2e a".toList } := Except.ok.inj (same.symm.trans normalized)
  subst shape
  exact ⟨cleanForm, normalized, (fixed _ 11 (by decide)).mp cleanForm,
    again _ _ (some 12) 11 normalized (by decide)⟩

end ProtocolGate.Canonical
