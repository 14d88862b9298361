import ProtocolGate.Proofs.Canonical.Rewriting

/-!
Texts in percent forms. Whichever characters of a text are written in a percent form, rewriting
reads it form by form, and each rewrite that applies writes the very characters it reads.
-/

namespace ProtocolGate.Canonical

def percentForms : List (Char × Text) :=
  [('.', "%2e".toList), ('.', "%c0%ae".toList), ('/', "%2f".toList), (' ', "%20".toList),
    (':', "%3a".toList), ('|', "%7c".toList)]

/-- A text, and the same text with some of its characters in a percent form. -/
inductive Encodes : Text → Text → Prop
  | nil : Encodes [] []
  | keep {plain coded} (c) : Encodes plain coded → Encodes (c :: plain) (c :: coded)
  | code {plain coded c form} : (c, asciiLower form) ∈ percentForms →
      Encodes plain coded → Encodes (c :: plain) (form ++ coded)

theorem Encodes.refl (text : Text) : Encodes text text := by
  induction text with
  | nil => exact .nil
  | cons c rest ih => exact .keep c ih

theorem percentForms_head :
    ∀ token ∈ percentForms, token.2.head? = some '%' := by decide +kernel

theorem percentForms_apart : ∀ token ∈ percentForms, ∀ other ∈ percentForms,
    token.2 <+: other.2 → token = other := by decide +kernel

theorem percentForms_not_overlong : ∀ token ∈ percentForms,
    ¬ token.2 <+: "%c0%af".toList ∧ ¬ "%c0%af".toList <+: token.2 := by decide +kernel

theorem percentForms_encoded : ∀ token ∈ percentForms,
    ∃ rewrite ∈ Table.standard, rewrite.encoded = token.2 := by decide +kernel

theorem eq_of_toLower_eq_percent {c : Char} (lowered : c.toLower = '%') : c = '%' :=
  eq_of_toLower_eq lowered (by decide)

theorem Encodes.percent_cases {plain coded form : Text} (encodes : Encodes plain coded)
    (noPercent : '%' ∉ plain) (percent : form.head? = some '%')
    (opens : form <+: asciiLower coded) :
    ∃ token ∈ percentForms, ∃ rest, plain = token.1 :: rest ∧
      (form <+: token.2 ∨ token.2 <+: form) ∧ Encodes rest (coded.drop token.2.length) := by
  obtain ⟨tail, shape⟩ := List.head?_eq_some_iff.mp percent
  cases encodes with
  | nil => simp [shape] at opens
  | keep c _ =>
      rw [shape, asciiLower_cons, List.cons_prefix_cons] at opens
      have same := eq_of_toLower_eq_percent opens.1.symm
      exact absurd (by simp [same]) noPercent
  | @code plain coded c given listed tail =>
      have given_opens : asciiLower given <+: asciiLower (given ++ coded) := by
        rw [asciiLower_append]
        exact List.prefix_append _ _
      refine ⟨_, listed, plain, rfl, List.prefix_or_prefix_of_prefix opens given_opens, ?_⟩
      simpa using tail

def tokens : List (Char × Text) :=
  ('.', ['.']) :: ('/', ['/']) :: percentForms

theorem Encodes.token {plain coded : Text} (encodes : Encodes plain coded)
    (noPercent : '%' ∉ plain) {token : Char × Text} (listed : token ∈ tokens)
    (opens : token.2 <+: asciiLower coded) :
    ∃ rest, plain = token.1 :: rest ∧ Encodes rest (coded.drop token.2.length) := by
  have literal (d : Char) (sign : d ≠ '%') (notLetter : ¬ (97 ≤ d.toNat ∧ d.toNat ≤ 122))
      (opens : [d] <+: asciiLower coded) :
      ∃ rest, plain = d :: rest ∧ Encodes rest (coded.drop 1) := by
    cases encodes with
    | nil => simp at opens
    | keep c tail =>
        rw [asciiLower_cons, List.cons_prefix_cons] at opens
        exact ⟨_, by rw [eq_of_toLower_eq opens.1.symm notLetter], tail⟩
    | code listed tail =>
        obtain ⟨others, shape⟩ := List.head?_eq_some_iff.mp (percentForms_head _ listed)
        dsimp only at shape
        rw [asciiLower_append, shape, List.cons_append, List.cons_prefix_cons] at opens
        exact absurd opens.1 sign
  simp only [tokens, List.mem_cons] at listed
  rcases listed with same | same | listed
  · subst same
    exact literal '.' (by decide) (by decide) opens
  · subst same
    exact literal '/' (by decide) (by decide) opens
  · obtain ⟨other, otherListed, rest, shape, comparable, tail⟩ :=
      encodes.percent_cases noPercent (percentForms_head token listed) opens
    have same : other = token := by
      rcases comparable with shorter | longer
      · exact (percentForms_apart token listed other otherListed shorter).symm
      · exact percentForms_apart other otherListed token listed longer
    subst same
    exact ⟨rest, shape, tail⟩

theorem Encodes.tokens {plain coded : Text} (encodes : Encodes plain coded)
    (noPercent : '%' ∉ plain) {spelled : List (Char × Text)}
    (listed : ∀ token ∈ spelled, token ∈ tokens)
    (opens : spelled.flatMap Prod.snd <+: asciiLower coded) :
    ∃ rest, plain = spelled.map Prod.fst ++ rest ∧
      Encodes rest (coded.drop (spelled.flatMap Prod.snd).length) := by
  induction spelled generalizing plain coded with
  | nil => exact ⟨plain, rfl, encodes⟩
  | cons token spelled ih =>
      rw [List.flatMap_cons] at opens ⊢
      obtain ⟨rest, shape, tail⟩ := encodes.token noPercent (listed token (by simp))
        ((List.prefix_append _ _).trans opens)
      subst shape
      obtain ⟨others, split⟩ := opens
      have later : spelled.flatMap Prod.snd <+: asciiLower (coded.drop token.2.length) := by
        rw [asciiLower_drop, ← split, List.append_assoc, List.drop_left]
        exact List.prefix_append _ _
      obtain ⟨last, shape, tail⟩ := ih tail (fun member => noPercent (by simp [member]))
        (fun other member => listed other (by simp [member])) later
      refine ⟨last, by simp [shape], ?_⟩
      simpa [List.drop_drop, Nat.add_comm] using tail

def spellings : List (List (Char × Text)) :=
  let dot := ('.', "%2e".toList)
  [[dot, dot, ('/', "%2f".toList)], [('.', ['.']), ('.', ['.']), dot, ('/', ['/'])],
    [('.', ['.']), dot, ('/', ['/'])], [dot, dot, ('/', ['/'])]] ++ percentForms.map ([·])

theorem token_of_mem_spellings : ∀ spelled ∈ spellings, ∀ token ∈ spelled, token ∈ tokens := by
  decide +kernel

/-- A rewrite writes the characters that its encoded form spells; only the overlong form of the
slash spells none, and one form drops a dot. -/
theorem standard_spelled : ∀ rewrite ∈ Table.standard, rewrite.encoded = "%c0%af".toList ∨
    ∃ spelled ∈ spellings, spelled.flatMap Prod.snd = rewrite.encoded ∧
      (spelled.map Prod.fst = rewrite.canonical ∨ spelled.map Prod.fst = ".../".toList) := by
  decide +kernel

theorem Encodes.rewrite {plain coded : Text} (encodes : Encodes plain coded)
    (noPercent : '%' ∉ plain) (noDots : ¬ ".../".toList <+: plain) {rewrite : Rewrite}
    (found : Table.standard.first? coded = some rewrite) :
    ∃ rest, plain = rewrite.canonical ++ rest ∧
      Encodes rest (coded.drop rewrite.encoded.length) := by
  obtain ⟨member, opens⟩ := Table.first?_some found
  rcases standard_spelled rewrite member with overlong | ⟨spelled, listed, form, reads⟩
  · rw [overlong] at opens
    obtain ⟨token, tokenListed, _, _, comparable, _⟩ :=
      encodes.percent_cases noPercent (by decide +kernel) opens
    have apart := percentForms_not_overlong token tokenListed
    exact (comparable.elim apart.2 apart.1).elim
  · rw [← form] at opens ⊢
    obtain ⟨rest, shape, tail⟩ :=
      encodes.tokens noPercent (token_of_mem_spellings spelled listed) opens
    rcases reads with same | dots
    · exact ⟨rest, by rw [shape, same], tail⟩
    · rw [shape, dots] at noDots
      exact absurd (List.prefix_append _ _) noDots

theorem Encodes.copied {plain rest : Text} {c : Char} (encodes : Encodes plain (c :: rest))
    (absent : Table.standard.first? (c :: rest) = none) :
    ∃ others, plain = c :: others ∧ Encodes others rest := by
  generalize shape : c :: rest = coded at encodes
  cases encodes with
  | nil => simp at shape
  | keep d tail =>
      obtain ⟨same, sameRest⟩ := List.cons.inj shape
      subst same sameRest
      exact ⟨_, rfl, tail⟩
  | @code plain coded d form listed tail =>
      obtain ⟨rewrite, member, encoded⟩ := percentForms_encoded _ listed
      refine absurd ?_ ((Table.first?_eq_none_iff _ _).mp absent rewrite member)
      rw [encoded, shape, asciiLower_append]
      exact List.prefix_append _ _

theorem Encodes.eq_nil {plain : Text} (encodes : Encodes plain []) : plain = [] := by
  generalize shape : [] = coded at encodes
  cases encodes with
  | nil => rfl
  | keep _ _ => simp at shape
  | @code _ _ _ form listed _ =>
      have empty : form = [] := (List.append_eq_nil_iff.mp shape.symm).1
      have head := percentForms_head _ listed
      simp [empty] at head

theorem Encodes.rewrites {plain coded : Text} (encodes : Encodes plain coded)
    (noPercent : '%' ∉ plain) (noDots : ¬ ".../".toList <:+: plain) {capacity : Nat}
    (room : plain.length ≤ capacity) : Table.standard.Rewrites capacity coded plain [] := by
  -- A rewrite reads several characters at once, so the induction is on the length.
  generalize size : coded.length = length
  induction length using Nat.strongRecOn generalizing plain coded capacity with
  | ind length ih =>
      cases coded with
      | nil =>
          rw [encodes.eq_nil]
          exact .finished
      | cons c rest =>
          simp only [List.length_cons] at size
          cases found : Table.standard.first? (c :: rest) with
          | none =>
              obtain ⟨others, shape, tail⟩ := encodes.copied found
              subst shape
              simp only [List.length_cons] at room
              refine .copy found (by omega) (ih rest.length (by omega) tail ?_ ?_ (by omega) rfl)
              · exact fun member => noPercent (by simp [member])
              · exact fun occurs => noDots (List.infix_cons occurs)
          | some rewrite =>
              obtain ⟨others, shape, tail⟩ :=
                encodes.rewrite noPercent (fun opens => noDots opens.isInfix) found
              subst shape
              have reads : 0 < rewrite.encoded.length := Table.standard_encoded_length
                rewrite (Table.first?_some found).1
              simp only [List.length_append] at room
              refine .apply found (by omega) (ih _ ?_ tail ?_ ?_ (by omega) rfl)
              · simp only [List.length_drop, List.length_cons]
                omega
              · exact fun member => noPercent (by simp [member])
              · exact fun occurs => noDots (List.infix_append_of_infix_right occurs)

/-- Whatever characters of a text are written in a percent form, the canonical form is that of the
text itself, and it is complete. -/
theorem normalize_encoded (context : Context) (standard : context.policy.table = .standard)
    (encoding : context.policy.encodingNormalize = true) {plain coded : Text}
    (encodes : Encodes plain coded) (noPercent : '%' ∉ plain)
    (noDots : ¬ ".../".toList <:+: plain) (bound : Option Int)
    (fits : plain.length < bound.getD context.bufferSize) :
    (context.normalize (.text coded) bound).1 = (context.normalize (.text plain) bound).1 ∧
      (context.normalize (.text plain) bound).1 =
        .ok { text := context.policy.finish plain, truncated := false } := by
  have active := Policy.activeTable_standard standard encoding
  have complete {given : Text} (spelled : Encodes plain given) :
      (context.normalize (.text given) bound).1 =
        .ok { text := context.policy.finish plain, truncated := false } := by
    have run : context.policy.activeTable.Rewrites (bound.getD context.bufferSize - 1).toNat given
        plain [] := by
      rw [active]
      exact spelled.rewrites noPercent noDots (by omega)
    rw [Context.normalize_of_inputText rfl (by omega),
      Policy.form_of_rewrites (active ▸ Table.standard_progressive) run]
    rfl
  exact ⟨(complete encodes).trans (complete (.refl plain)).symm, complete (.refl plain)⟩

theorem normalize_encoded_traversal :
    Encodes "../..:x|../".toList ".%2E/%c0%Ae%2e%3Ax%7c%2e%2E%2f".toList ∧
      '%' ∉ "../..:x|../".toList ∧ ¬ ".../".toList <:+: "../..:x|../".toList ∧
      (({} : Context).normalize (.text ".%2E/%c0%Ae%2e%3Ax%7c%2e%2E%2f".toList) (some 12)).1 =
        (({} : Context).normalize (.text "../..:x|../".toList) (some 12)).1 := by
  have encodes : Encodes "../..:x|../".toList ".%2E/%c0%Ae%2e%3Ax%7c%2e%2E%2f".toList := by
    refine .keep '.' (@Encodes.code _ _ _ "%2E".toList (by decide +kernel) (.keep '/' ?_))
    refine @Encodes.code _ _ _ "%c0%Ae".toList (by decide +kernel) ?_
    refine @Encodes.code _ _ _ "%2e".toList (by decide +kernel) ?_
    refine @Encodes.code _ _ _ "%3A".toList (by decide +kernel) (.keep 'x' ?_)
    refine @Encodes.code _ _ _ "%7c".toList (by decide +kernel) ?_
    refine @Encodes.code _ _ _ "%2e".toList (by decide +kernel) ?_
    refine @Encodes.code _ _ _ "%2E".toList (by decide +kernel) ?_
    exact @Encodes.code _ _ _ "%2f".toList (by decide +kernel) .nil
  have noPercent : '%' ∉ "../..:x|../".toList := by decide +kernel
  have noDots : ¬ ".../".toList <:+: "../..:x|../".toList := by decide +kernel
  exact ⟨encodes, noPercent, noDots, (normalize_encoded {} rfl rfl encodes noPercent noDots
    (some 12) (by decide +kernel)).1⟩

end ProtocolGate.Canonical
