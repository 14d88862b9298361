import ProtocolGate.Proofs.Canonical.Pieces

/-!
Variants of an input. Lowering and collapsing follow the rewriting, and yet the case of letters and
the make-up of blank runs in the raw input leave no trace: which rewrite applies at a place depends
on neither, so the rewriting of two variants goes in step.
-/

namespace ProtocolGate

/-- A text, and the same text with some of its runs of blanks made up of other blanks. -/
inductive BlankVariant : Text → Text → Prop
  | nil : BlankVariant [] []
  | keep {text other} (c) : BlankVariant text other → BlankVariant (c :: text) (c :: other)
  | run {text other run otherRun} : run ≠ [] → otherRun ≠ [] → (∀ c ∈ run, isBlank c = true) →
      (∀ c ∈ otherRun, isBlank c = true) → BlankVariant text other →
      BlankVariant (run ++ text) (otherRun ++ other)

theorem BlankVariant.symm {text other : Text} (variant : BlankVariant text other) :
    BlankVariant other text := by
  induction variant with
  | nil => exact .nil
  | keep c _ ih => exact .keep c ih
  | run nonempty otherNonempty blank otherBlank _ ih =>
      exact .run otherNonempty nonempty otherBlank blank ih

theorem BlankVariant.cons_other {c : Char} {rest other : Text}
    (variant : BlankVariant (c :: rest) other) (solid : isBlank c = false) :
    ∃ others, other = c :: others ∧ BlankVariant rest others := by
  generalize shape : c :: rest = text at variant
  cases variant with
  | nil => contradiction
  | keep d tail =>
      obtain ⟨rfl, rfl⟩ := List.cons.inj shape
      exact ⟨_, rfl, tail⟩
  | @run _ _ run _ nonempty _ blank _ _ =>
      obtain ⟨d, more, rfl⟩ := List.exists_cons_of_ne_nil nonempty
      obtain ⟨rfl, _⟩ := List.cons.inj shape
      rw [blank c (by simp)] at solid
      contradiction

theorem BlankVariant.opens {form text other : Text} (solid : ∀ c ∈ form, isBlank c = false)
    (variant : BlankVariant text other) (opens : form <+: asciiLower text) :
    form <+: asciiLower other ∧
      BlankVariant (text.drop form.length) (other.drop form.length) := by
  induction form generalizing text other with
  | nil => exact ⟨List.nil_prefix, variant⟩
  | cons expected form ih =>
      cases text with
      | nil => simp at opens
      | cons c rest =>
          rw [asciiLower_cons, List.cons_prefix_cons] at opens
          obtain ⟨rfl, later⟩ := opens
          have solidHead : isBlank c = false := by
            rw [← isBlank_toLower]
            exact solid _ (by simp)
          obtain ⟨others, rfl, tail⟩ := variant.cons_other solidHead
          obtain ⟨opensToo, left⟩ := ih (fun d member => solid d (by simp [member])) tail later
          rw [asciiLower_cons, List.cons_prefix_cons]
          exact ⟨⟨rfl, opensToo⟩, left⟩

theorem collapseFrom_run {run : Text} (nonempty : run ≠ []) (blank : ∀ c ∈ run, isBlank c = true)
    (inRun : Bool) (text : Text) :
    collapseFrom inRun (run ++ text) =
      if inRun then collapseFrom true text else ' ' :: collapseFrom true text := by
  induction run generalizing inRun with
  | nil => contradiction
  | cons c more ih =>
      rw [List.cons_append, collapseFrom_cons_blank (blank c (by simp))]
      cases more with
      | nil => rfl
      | cons d more =>
          have later := ih (by simp) (fun e member => blank e (by simp [member])) true
          rw [later]
          rfl

theorem collapseFrom_append_congr {text other : Text}
    (same : ∀ inRun, collapseFrom inRun text = collapseFrom inRun other) (front : Text)
    (inRun : Bool) : collapseFrom inRun (front ++ text) = collapseFrom inRun (front ++ other) := by
  induction front generalizing inRun with
  | nil => exact same inRun
  | cons c front ih => simp only [List.cons_append, collapseFrom, ih]

namespace Canonical

namespace Table

variable {table : Table} {c d : Char} {rest others text other : Text}

theorem first?_lower (same : asciiLower other = asciiLower text) :
    table.first? other = table.first? text := by
  have alike (rewrite : Rewrite) : rewrite.opens other = rewrite.opens text := by
    rw [Bool.eq_iff_iff, Rewrite.opens_iff, Rewrite.opens_iff, same]
  simp only [first?, alike]

theorem piece_lower (same : asciiLower (d :: others) = asciiLower (c :: rest)) :
    (table.piece d others).read = (table.piece c rest).read ∧
      asciiLower (table.piece d others).written = asciiLower (table.piece c rest).written := by
  have firsts := table.first?_lower same
  cases found : table.first? (c :: rest) with
  | some rewrite =>
      rw [piece_of_first?_some found, piece_of_first?_some (firsts.trans found)]
      exact ⟨rfl, rfl⟩
  | none =>
      rw [piece_of_first?_none found, piece_of_first?_none (firsts.trans found)]
      exact ⟨rfl, congrArg (· :: []) (List.cons.inj same).1⟩

theorem Rewrites.lower {capacity : Nat} {written left : Text}
    (run : table.Rewrites capacity text written left) (same : asciiLower other = asciiLower text) :
    ∃ writtenToo leftToo, table.Rewrites capacity other writtenToo leftToo ∧
      asciiLower writtenToo = asciiLower written ∧ asciiLower leftToo = asciiLower left := by
  induction run generalizing other with
  | finished =>
      obtain rfl : other = [] := List.map_eq_nil_iff.mp same
      exact ⟨[], [], .finished, rfl, rfl⟩
  | full exceeds =>
      obtain ⟨d, others, rfl, _, _⟩ := List.map_eq_cons_iff.mp same
      have pieces := table.piece_lower same
      have length := congrArg List.length pieces.2
      simp only [length_asciiLower] at length
      exact ⟨[], d :: others, .full (by omega), rfl, same⟩
  | @move capacity c rest written left fits _ ih =>
      obtain ⟨d, others, rfl, _, _⟩ := List.map_eq_cons_iff.mp same
      obtain ⟨reads, writes⟩ := table.piece_lower same
      have length := congrArg List.length writes
      simp only [length_asciiLower] at length
      have rests : asciiLower ((d :: others).drop (table.piece d others).read) =
          asciiLower ((c :: rest).drop (table.piece c rest).read) := by
        rw [asciiLower_drop, asciiLower_drop, same, reads]
      obtain ⟨writtenToo, leftToo, tail, sameWritten, sameLeft⟩ := ih rests
      rw [← length] at fits tail
      refine ⟨_, leftToo, .move fits tail, ?_, sameLeft⟩
      rw [asciiLower_append, asciiLower_append, writes, sameWritten]

def Solid (table : Table) : Prop :=
  ∀ rewrite ∈ table, ∀ c ∈ rewrite.encoded, isBlank c = false

theorem first?_variant (solid : table.Solid) (variant : BlankVariant text other) :
    table.first? other = table.first? text := by
  have alike : ∀ rewrite ∈ table, rewrite.opens other = rewrite.opens text := by
    intro rewrite member
    rw [Bool.eq_iff_iff, Rewrite.opens_iff, Rewrite.opens_iff]
    exact ⟨fun opens => (variant.symm.opens (solid rewrite member) opens).1,
      fun opens => (variant.opens (solid rewrite member) opens).1⟩
  rw [first?, first?, ← List.head?_filter, ← List.head?_filter, List.filter_congr alike]

theorem Solid.first?_blank (solid : table.Solid) (nonempty : ∀ rewrite ∈ table, rewrite.encoded ≠ [])
    (blank : isBlank c = true) : table.first? (c :: rest) = none := by
  rw [first?_eq_none_iff]
  intro rewrite member opens
  obtain ⟨expected, form, shape⟩ := List.exists_cons_of_ne_nil (nonempty rewrite member)
  rw [shape, asciiLower_cons, List.cons_prefix_cons] at opens
  have other := solid rewrite member expected (by simp [shape])
  rw [opens.1, isBlank_toLower, blank] at other
  contradiction

theorem Pieces.blanks (solid : table.Solid) (nonempty : ∀ rewrite ∈ table, rewrite.encoded ≠ [])
    {run : Text} (blank : ∀ c ∈ run, isBlank c = true) {pieces : List Text}
    (cut : table.Pieces text pieces) : table.Pieces (run ++ text) (run.map ([·]) ++ pieces) := by
  induction run with
  | nil => exact cut
  | cons c more ih =>
      have absent : table.first? (c :: (more ++ text)) = none :=
        solid.first?_blank nonempty (blank c (by simp))
      exact .copied ((first?_eq_none_iff _ _).mp absent)
        (ih fun d member => blank d (by simp [member]))

theorem exists_pieces_variant (solid : table.Solid)
    (nonempty : ∀ rewrite ∈ table, rewrite.encoded ≠ []) (variant : BlankVariant text other) :
    ∃ pieces piecesToo, table.Pieces text pieces ∧ table.Pieces other piecesToo ∧
      ∀ inRun, collapseFrom inRun pieces.flatten = collapseFrom inRun piecesToo.flatten := by
  -- A rewrite reads several characters at once, so the induction is on the length.
  generalize size : text.length = length
  induction length using Nat.strongRecOn generalizing text other with
  | ind length ih =>
      cases variant with
      | nil => exact ⟨[], [], .finished, .finished, fun _ => rfl⟩
      | @run text other run otherRun runNonempty otherNonempty blank otherBlank tail =>
          have reads := List.length_pos_iff.mpr runNonempty
          rw [List.length_append] at size
          obtain ⟨pieces, piecesToo, cut, cutToo, same⟩ := ih text.length (by omega) tail rfl
          refine ⟨_, _, cut.blanks solid nonempty blank, cutToo.blanks solid nonempty otherBlank, ?_⟩
          intro inRun
          have singles (run : Text) : (run.map ([·])).flatten = run := List.flatMap_singleton' run
          rw [List.flatten_append, List.flatten_append, singles, singles,
            collapseFrom_run runNonempty blank, collapseFrom_run otherNonempty otherBlank, same]
      | @keep text other c tail =>
          rw [List.length_cons] at size
          have firsts := table.first?_variant solid (.keep c tail)
          cases found : table.first? (c :: text) with
          | none =>
              obtain ⟨pieces, piecesToo, cut, cutToo, same⟩ := ih text.length (by omega) tail rfl
              exact ⟨_, _, .copied ((first?_eq_none_iff _ _).mp found) cut,
                .copied ((first?_eq_none_iff _ _).mp (firsts.trans found)) cutToo,
                collapseFrom_append_congr same [c]⟩
          | some rewrite =>
              obtain ⟨member, opens⟩ := first?_some found
              have reads := List.length_pos_iff.mpr (nonempty rewrite member)
              have left := (BlankVariant.opens (solid rewrite member) (.keep c tail) opens).2
              have shorter : ((c :: text).drop rewrite.encoded.length).length < length := by
                rw [List.length_drop, List.length_cons]
                omega
              obtain ⟨pieces, piecesToo, cut, cutToo, same⟩ := ih _ shorter left rfl
              exact ⟨_, _, .rewritten (first?_eq_some_iff.mp found) cut,
                .rewritten (first?_eq_some_iff.mp (firsts.trans found)) cutToo,
                collapseFrom_append_congr same rewrite.canonical⟩

theorem standard_solid : Table.standard.Solid := by
  have checked : Table.standard.all (fun rewrite => rewrite.encoded.all fun c => !isBlank c) = true :=
    by decide +kernel
  simpa only [Solid, List.all_eq_true, Bool.not_eq_true'] using checked

end Table

namespace Policy

def withCaseFold (policy : Policy) (caseFold : Bool) : Policy :=
  { policy with caseFold }

variable (policy : Policy)

theorem withCaseFold_self : policy.withCaseFold policy.caseFold = policy := rfl

theorem asciiLower_finish (text : Text) :
    asciiLower (policy.finish text) = (policy.withCaseFold true).finish text := by
  unfold finish withCaseFold collapseBlanks
  cases policy.caseFold <;> cases policy.whitespaceCollapse <;> simp [asciiLower_collapseFrom]

theorem finish_lower {first second : Text} (same : asciiLower first = asciiLower second) :
    (policy.withCaseFold true).finish first = (policy.withCaseFold true).finish second := by
  simp only [finish, withCaseFold, if_true, same]

theorem finish_collapse {policy : Policy} (collapses : policy.whitespaceCollapse = true)
    {first second : Text} (same : collapseBlanks first = collapseBlanks second) :
    policy.finish first = policy.finish second := by
  unfold collapseBlanks at same
  unfold finish collapseBlanks
  cases policy.caseFold
  · simpa [collapses] using same
  · simp [collapses, ← asciiLower_collapseFrom, same]

theorem form_withCaseFold (capacity : Nat) (text : Text) :
    (policy.withCaseFold true).form capacity text =
      { policy.form capacity text with text := asciiLower (policy.form capacity text).text } := by
  unfold form
  rw [asciiLower_finish]
  rfl

variable {policy}

theorem form_lower (progressive : policy.activeTable.Progressive) (capacity : Nat)
    {first second : Text} (same : asciiLower first = asciiLower second) :
    (policy.withCaseFold true).form capacity first =
      (policy.withCaseFold true).form capacity second := by
  have folded : (policy.withCaseFold true).activeTable.Progressive := progressive
  obtain ⟨written, left, run, formed⟩ := exists_rewrites folded capacity first
  obtain ⟨writtenToo, leftToo, runToo, sameWritten, sameLeft⟩ := run.lower same.symm
  have empties : leftToo.isEmpty = left.isEmpty := by
    have lowered := congrArg List.isEmpty sameLeft
    rwa [asciiLower, asciiLower, List.isEmpty_map, List.isEmpty_map] at lowered
  rw [formed, form_of_rewrites folded runToo, policy.finish_lower sameWritten, empties]

theorem form_variant (nonempty : ∀ rewrite ∈ policy.table, rewrite.encoded ≠ [])
    (solid : policy.activeTable.Solid) (collapses : policy.whitespaceCollapse = true)
    {text other : Text} (variant : BlankVariant text other) {capacity otherCapacity : Nat}
    (complete : (policy.form capacity text).truncated = false)
    (otherComplete : (policy.form otherCapacity other).truncated = false) :
    policy.form capacity text = policy.form otherCapacity other := by
  obtain ⟨pieces, piecesToo, cut, cutToo, same⟩ :=
    Table.exists_pieces_variant solid (activeTable_encoded nonempty) variant
  obtain ⟨run, _, written, whole⟩ := form_pieces nonempty capacity cut
  obtain ⟨runToo, _, writtenToo, wholeToo⟩ := form_pieces nonempty otherCapacity cutToo
  obtain rfl := whole.mp complete
  obtain rfl := wholeToo.mp otherComplete
  have texts : (policy.form capacity text).text = (policy.form otherCapacity other).text := by
    rw [written, writtenToo]
    exact finish_collapse collapses (same false)
  cases first : policy.form capacity text
  cases second : policy.form otherCapacity other
  simp_all

end Policy

namespace Context

def withCaseFold (context : Context) (caseFold : Bool) : Context :=
  { context with policy := context.policy.withCaseFold caseFold }

theorem normalize_withCaseFold (context : Context) (data : Datum) (bound : Option Int) :
    ((context.withCaseFold true).normalize data bound).1 =
      ((context.withCaseFold false).normalize data bound).1.map fun form =>
        { form with text := asciiLower form.text } := by
  unfold normalize
  cases inputText data with
  | error fault => rfl
  | ok text =>
      have size (caseFold : Bool) : (context.withCaseFold caseFold).bufferSize =
        context.bufferSize := rfl
      simp only [size]
      split
      · rfl
      · exact congrArg Except.ok
          ((context.policy.withCaseFold false).form_withCaseFold _ text)

end Context

/-- Variants of an input have one canonical form. Texts that differ in the case of letters alone are
cut at the same place into forms that differ in case alone, and lowering makes them equal; under the
standard table, texts that differ in the make-up of blank runs alone have the same complete form
where blank runs collapse. -/
theorem normalize_variants (context : Context)
    (nonempty : ∀ rewrite ∈ context.policy.table, rewrite.encoded ≠ []) :
    (∀ data other text otherText, inputText data = .ok text → inputText other = .ok otherText →
      asciiLower text = asciiLower otherText →
      ∀ bound : Option Int, 1 ≤ bound.getD context.bufferSize →
        ∃ form otherForm, (context.normalize data bound).1 = .ok form ∧
          (context.normalize other bound).1 = .ok otherForm ∧
          form.truncated = otherForm.truncated ∧ form.length = otherForm.length ∧
          asciiLower form.text = asciiLower otherForm.text ∧
          (context.policy.caseFold = true → form = otherForm)) ∧
    (∀ data bound, ((context.withCaseFold true).normalize data bound).1 =
      ((context.withCaseFold false).normalize data bound).1.map fun form =>
        { form with text := asciiLower form.text }) ∧
    (context.policy.table = .standard → context.policy.whitespaceCollapse = true →
      ∀ data other text otherText, inputText data = .ok text → inputText other = .ok otherText →
        BlankVariant text otherText → ∀ bound otherBound form otherForm,
          (context.normalize data bound).1 = .ok form →
          (context.normalize other otherBound).1 = .ok otherForm →
          form.truncated = false → otherForm.truncated = false → form = otherForm) := by
  refine ⟨?_, context.normalize_withCaseFold, ?_⟩
  · intro data other text otherText read otherRead same bound room
    rw [Context.normalize_of_inputText read room, Context.normalize_of_inputText otherRead room]
    refine ⟨_, _, rfl, rfl, ?_⟩
    have progressive := Table.progressive_of_encoded (Policy.activeTable_encoded nonempty)
    have folded := Policy.form_lower progressive
      (bound.getD context.bufferSize - 1).toNat same
    have forms := folded
    rw [Policy.form_withCaseFold, Policy.form_withCaseFold, Form.mk.injEq] at forms
    have length := congrArg List.length forms.1
    rw [length_asciiLower, length_asciiLower] at length
    refine ⟨forms.2, length, forms.1, fun folds => ?_⟩
    rwa [← folds, Policy.withCaseFold_self] at folded
  · intro standard collapses data other text otherText read otherRead variant bound otherBound form
      otherForm normalized otherNormalized complete otherComplete
    have solid : context.policy.activeTable.Solid := fun rewrite member =>
      Table.standard_solid rewrite (Policy.activeTable_subset standard rewrite member)
    obtain ⟨given, givenRead, _, rfl⟩ := Context.inputText_of_normalize normalized
    obtain ⟨otherGiven, otherGivenRead, _, rfl⟩ := Context.inputText_of_normalize otherNormalized
    obtain rfl := Except.ok.inj (givenRead.symm.trans read)
    obtain rfl := Except.ok.inj (otherGivenRead.symm.trans otherRead)
    exact Policy.form_variant nonempty solid collapses variant complete otherComplete

theorem normalize_variants_unfolded :
    ∃ context : Context, context.policy.caseFold = false ∧
      (∀ rewrite ∈ context.policy.table, rewrite.encoded ≠ []) ∧
      asciiLower "A%C0%aFb".toList = asciiLower "a%c0%AFB".toList ∧
      (∃ form otherForm, (context.normalize (.text "A%C0%aFb".toList) (some 6)).1 = .ok form ∧
        (context.normalize (.bytes [97, 37, 99, 48, 37, 65, 70, 66]) (some 6)).1 = .ok otherForm ∧
        form.truncated = otherForm.truncated ∧
        asciiLower form.text = asciiLower otherForm.text) ∧
      BlankVariant "a \t%20\n.".toList "a\r%20 \r.".toList ∧
      (context.normalize (.text "a \t%20\n.".toList) (some 8)).1 =
        (context.normalize (.text "a\r%20 \r.".toList) (some 9)).1 := by
  let context : Context := { policy := { caseFold := false } }
  have nonempty : ∀ rewrite ∈ context.policy.table, rewrite.encoded ≠ [] := by decide +kernel
  obtain ⟨letters, _, blanks⟩ := normalize_variants context nonempty
  have alike : asciiLower "A%C0%aFb".toList = asciiLower "a%c0%AFB".toList := by decide +kernel
  obtain ⟨form, otherForm, normalized, otherNormalized, truncated, _, same, _⟩ :=
    letters (.text "A%C0%aFb".toList) (.bytes [97, 37, 99, 48, 37, 65, 70, 66]) _ _ rfl rfl alike
      (some 6) (by decide)
  have variant : BlankVariant "a \t%20\n.".toList "a\r%20 \r.".toList := by
    have tail : BlankVariant ['\n', '.'] [' ', '\r', '.'] :=
      @BlankVariant.run ['.'] ['.'] ['\n'] [' ', '\r'] (by decide) (by decide) (by simp [isBlank])
        (by simp [isBlank]) (.keep '.' .nil)
    exact .keep 'a' (@BlankVariant.run _ _ [' ', '\t'] ['\r'] (by decide) (by decide)
      (by simp [isBlank]) (by simp [isBlank]) (.keep '%' (.keep '2' (.keep '0' tail))))
  have first : (context.normalize (.text "a \t%20\n.".toList) (some 8)).1 =
      .ok { text := "a .".toList } := by rfl
  have second : (context.normalize (.text "a\r%20 \r.".toList) (some 9)).1 =
      .ok { text := "a .".toList } := by rfl
  have equal := blanks rfl rfl _ _ _ _ rfl rfl variant _ _ _ _ first second rfl rfl
  exact ⟨context, rfl, nonempty, alike, ⟨form, otherForm, normalized, otherNormalized, truncated,
    same⟩, variant, by rw [first, second, equal]⟩

end Canonical

end ProtocolGate
