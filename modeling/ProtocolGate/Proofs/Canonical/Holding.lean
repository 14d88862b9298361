import ProtocolGate.Proofs.Canonical.Agreement
import ProtocolGate.Proofs.Canonical.Termination

/-!
The holding area over any use of a context. Its history is the list of the forms that normalisations
have completed with, those inside comparisons among them. After any calls, with switches set in
between, the area has the text of the latest form of the history that fits it.
-/

namespace ProtocolGate.Canonical

theorem Table.Ends.unique {table : Table} {capacity : Nat} {text : Text}
    {cursor last other : Cursor} {rounds again : Nat}
    (ends : table.Ends capacity text cursor rounds last)
    (endsToo : table.Ends capacity text cursor again other) : last = other := by
  induction ends generalizing again with
  | exhausted past =>
      cases endsToo with
      | exhausted _ => rfl
      | full inside _ => omega
      | moved inside _ _ => omega
  | full inside exceeds =>
      cases endsToo with
      | exhausted past => omega
      | full _ _ => rfl
      | moved _ fits _ => omega
  | moved inside fits _ ih =>
      cases endsToo with
      | exhausted past => omega
      | full _ exceeds => omega
      | moved _ _ later => exact ih later

inductive Switch where
  | caseFold
  | whitespaceCollapse
  | encodingNormalize

namespace Policy

def set (policy : Policy) (value : Bool) : Switch → Policy
  | .caseFold => { policy with caseFold := value }
  | .whitespaceCollapse => { policy with whitespaceCollapse := value }
  | .encodingNormalize => { policy with encodingNormalize := value }

@[simp]
theorem set_table (policy : Policy) (value : Bool) (switch : Switch) :
    (policy.set value switch).table = policy.table := by
  cases switch <;> rfl

/-- A normalisation completes: the limit leaves room, the input is a text, and the loop over it
ends. The form is what the loop has written, finished; it is truncated if the loop has left
something. -/
def Completes (policy : Policy) (limit : Int) (data : Datum) (form : Form) : Prop :=
  1 ≤ limit ∧ ∃ text rounds last, inputText data = .ok text ∧
    policy.activeTable.Ends (limit - 1).toNat text {} rounds last ∧
    form =
      { text := policy.finish last.written, truncated := decide (last.position < text.length) }

inductive Yields (policy : Policy) (limit : Int) : List Datum → List Form → Prop
  | done : Yields policy limit [] []
  | refused {data later} : (∀ form, ¬ policy.Completes limit data form) →
      Yields policy limit (data :: later) []
  | completed {data later form forms} : policy.Completes limit data form →
      Yields policy limit later forms → Yields policy limit (data :: later) (form :: forms)

variable {policy : Policy} {limit : Int} {data : Datum}

theorem Completes.unique {form other : Form} (completes : policy.Completes limit data form)
    (completesToo : policy.Completes limit data other) : form = other := by
  obtain ⟨_, text, _, last, read, ends, rfl⟩ := completes
  obtain ⟨_, again, _, _, readToo, endsToo, rfl⟩ := completesToo
  obtain rfl : text = again := Except.ok.inj (read.symm.trans readToo)
  rw [ends.unique endsToo]

theorem Yields.unique {inputs : List Datum} {forms others : List Form}
    (yields : policy.Yields limit inputs forms) (yieldsToo : policy.Yields limit inputs others) :
    forms = others := by
  induction yields generalizing others with
  | done =>
      cases yieldsToo
      rfl
  | refused refuses =>
      cases yieldsToo with
      | refused _ => rfl
      | completed completes _ => exact absurd completes (refuses _)
  | completed completes _ ih =>
      cases yieldsToo with
      | refused refuses => exact absurd completes (refuses _)
      | completed completesToo later => rw [completes.unique completesToo, ih later]

theorem completes_form (nonempty : ∀ rewrite ∈ policy.table, rewrite.encoded ≠ []) {text : Text}
    (read : inputText data = .ok text) (room : 1 ≤ limit) :
    policy.Completes limit data (policy.form (limit - 1).toNat text) := by
  have progressive := Table.progressive_of_encoded (activeTable_encoded nonempty)
  obtain ⟨rounds, last, ends, few, _⟩ := @Table.exists_ends _ (limit - 1).toNat text progressive {}
    (Nat.zero_le text.length) (Nat.zero_le _)
  have enough : rounds ≤ moveLimit (limit - 1).toNat text := few
  obtain ⟨written, total, computed⟩ := ends.rewrite_eq (Nat.zero_le _) enough
  rw [List.nil_append] at total
  refine ⟨room, text, rounds, last, read, ends, ?_⟩
  have left : (text.drop last.position).isEmpty = !decide (last.position < text.length) := by
    rw [Bool.eq_iff_iff]
    simp
  change policy.activeTable.rewrite _ (limit - 1).toNat text = _ at computed
  simp only [form, computed, left, total, Bool.not_not]

end Policy

namespace Context

inductive Use where
  | call (call : Call)
  | set (switch : Switch) (value : Bool)

def afterUse (context : Context) : Use → Context
  | .call call => context.afterCall call
  | .set switch value => { context with policy := context.policy.set value switch }

def afterUses (context : Context) (uses : List Use) : Context :=
  uses.foldl afterUse context

def Call.inputs : Call → List Datum
  | .normalize data _ => [data]
  | .equivalent first second _ | .requireEquivalent first second _ => [first, second]

def Call.bound : Call → Option Int
  | .normalize _ bound | .equivalent _ _ bound | .requireEquivalent _ _ bound => bound

/-- The forms of all normalisations that uses complete, in order. -/
inductive History (bufferSize : Nat) : Policy → List Use → List Form → Prop
  | none {policy} : History bufferSize policy [] []
  | called {policy call uses forms later} :
      policy.Yields (call.bound.getD bufferSize) call.inputs forms →
      History bufferSize policy uses later →
      History bufferSize policy (.call call :: uses) (forms ++ later)
  | set {policy switch value uses forms} : History bufferSize (policy.set value switch) uses forms →
      History bufferSize policy (.set switch value :: uses) forms

def latestFit (bufferSize : Nat) (forms : List Form) : Option Text :=
  (forms.filter fun form => decide (form.length < bufferSize)).getLast?.map Form.text

variable {context : Context}

theorem History.unique {bufferSize : Nat} {policy : Policy} {uses : List Use}
    {forms others : List Form} (history : History bufferSize policy uses forms)
    (historyToo : History bufferSize policy uses others) : forms = others := by
  induction history generalizing others with
  | none =>
      cases historyToo
      rfl
  | called yields _ ih =>
      cases historyToo with
      | called yieldsToo later => rw [yields.unique yieldsToo, ih later]
  | set _ ih =>
      cases historyToo with
      | set later => exact ih later

theorem latestFit_length {bufferSize : Nat} {forms : List Form} {text : Text}
    (latest : latestFit bufferSize forms = some text) : text.length < bufferSize := by
  obtain ⟨form, last, rfl⟩ := Option.map_eq_some_iff.mp latest
  exact of_decide_eq_true (List.mem_filter.mp (List.mem_of_getLast? last)).2

theorem latestFit_append (bufferSize : Nat) (forms later : List Form) (held : Text) :
    (latestFit bufferSize (forms ++ later)).getD held =
      (latestFit bufferSize later).getD ((latestFit bufferSize forms).getD held) := by
  rw [latestFit, List.filter_append, List.getLast?_append]
  unfold latestFit
  cases (later.filter fun form => decide (form.length < bufferSize)).getLast? <;> rfl

@[simp]
theorem hold_bufferSize (context : Context) (form : Form) :
    (context.hold form).bufferSize = context.bufferSize := by
  unfold hold
  split <;> rfl

theorem foldl_hold (context : Context) (forms : List Form) :
    forms.foldl hold context =
      context.holding ((latestFit context.bufferSize forms).getD context.held) := by
  induction forms generalizing context with
  | nil => rfl
  | cons form later ih =>
      have first : context.hold form =
          context.holding ((latestFit context.bufferSize [form]).getD context.held) := by
        unfold hold latestFit
        by_cases fits : form.length < context.bufferSize <;> simp [fits, holding]
      have whole := latestFit_append context.bufferSize [form] later context.held
      rw [List.singleton_append] at whole
      rw [List.foldl_cons, ih, first, whole]
      rfl

theorem normalize_outcome (nonempty : ∀ rewrite ∈ context.policy.table, rewrite.encoded ≠ [])
    (data : Datum) (bound : Option Int) :
    (∃ form, context.policy.Completes (bound.getD context.bufferSize) data form ∧
      context.normalize data bound = (.ok form, context.hold form)) ∨
    ((∀ form, ¬ context.policy.Completes (bound.getD context.bufferSize) data form) ∧
      ∃ fault : Fault, fault.kind = .invalidInput ∧
        context.normalize data bound = (.error fault, context)) := by
  by_cases admitted : context.Admits bound data
  · obtain ⟨⟨text, read⟩, room⟩ := admitted
    exact .inl ⟨_, Policy.completes_form nonempty read room, normalize_of_inputText read room⟩
  · obtain ⟨fault, kind, answer⟩ := normalize_refused admitted
    refine .inr ⟨?_, fault, kind, ?_⟩
    · rintro form ⟨room, text, _, _, read, _⟩
      exact admitted ⟨⟨text, read⟩, room⟩
    · rcases context.normalize_cases data bound with ⟨other, refused⟩ | ⟨form, normalized⟩
      · rw [refused] at answer ⊢
        rw [Except.error.inj answer]
      · rw [normalized] at answer
        contradiction

theorem exists_yields_both (nonempty : ∀ rewrite ∈ context.policy.table, rewrite.encoded ≠ [])
    (first second : Datum) (bound : Option Int) :
    ∃ forms, context.policy.Yields (bound.getD context.bufferSize) [first, second] forms ∧
      (context.normalizeBoth first second bound).2 = forms.foldl hold context := by
  unfold normalizeBoth
  rcases normalize_outcome nonempty first bound with
    ⟨form, completes, normalized⟩ | ⟨refuses, fault, _, refused⟩
  · have kept : ∀ rewrite ∈ (context.hold form).policy.table, rewrite.encoded ≠ [] := by
      rwa [hold_policy]
    rw [normalized]
    rcases normalize_outcome kept second bound with
      ⟨other, completesToo, normalizedToo⟩ | ⟨refuses, fault, _, refused⟩
    · rw [hold_policy, hold_bufferSize] at completesToo
      refine ⟨[form, other], .completed completes (.completed completesToo .done), ?_⟩
      simp only [normalizedToo, List.foldl_cons, List.foldl_nil]
    · rw [hold_policy, hold_bufferSize] at refuses
      refine ⟨[form], .completed completes (.refused refuses), ?_⟩
      simp only [refused, List.foldl_cons, List.foldl_nil]
  · rw [refused]
    exact ⟨[], .refused refuses, rfl⟩

theorem exists_yields (nonempty : ∀ rewrite ∈ context.policy.table, rewrite.encoded ≠ [])
    (call : Call) :
    ∃ forms, context.policy.Yields (call.bound.getD context.bufferSize) call.inputs forms ∧
      context.afterCall call = forms.foldl hold context := by
  cases call with
  | normalize data bound =>
      rcases normalize_outcome nonempty data bound with
        ⟨form, completes, normalized⟩ | ⟨refuses, fault, _, refused⟩
      · exact ⟨[form], .completed completes .done, congrArg Prod.snd normalized⟩
      · exact ⟨[], .refused refuses, congrArg Prod.snd refused⟩
  | equivalent first second bound => exact exists_yields_both nonempty first second bound
  | requireEquivalent first second bound => exact exists_yields_both nonempty first second bound

theorem exists_history (nonempty : ∀ rewrite ∈ context.policy.table, rewrite.encoded ≠ [])
    (uses : List Use) :
    ∃ forms, History context.bufferSize context.policy uses forms ∧
      (context.afterUses uses).held =
        (latestFit context.bufferSize forms).getD context.held ∧
      (context.afterUses uses).bufferSize = context.bufferSize ∧
      (context.afterUses uses).policy.table = context.policy.table := by
  induction uses generalizing context with
  | nil => exact ⟨[], .none, rfl, rfl, rfl⟩
  | cons use later ih =>
      cases use with
      | call call =>
          obtain ⟨forms, yields, after⟩ := exists_yields nonempty call
          rw [foldl_hold] at after
          have kept : ∀ rewrite ∈ (context.afterCall call).policy.table, rewrite.encoded ≠ [] := by
            rwa [after]
          obtain ⟨others, history, held, bufferSize, table⟩ := ih kept
          have moved : context.afterUses (.call call :: later) =
              (context.afterCall call).afterUses later := rfl
          rw [moved]
          rw [after] at history held bufferSize table ⊢
          refine ⟨forms ++ others, .called yields history, ?_, bufferSize, table⟩
          rw [held, latestFit_append]
          rfl
      | set switch value =>
          have kept : ∀ rewrite ∈ (context.policy.set value switch).table,
              rewrite.encoded ≠ [] := by
            rwa [Policy.set_table]
          obtain ⟨forms, history, held, bufferSize, table⟩ :=
            @ih { context with policy := context.policy.set value switch } kept
          rw [Policy.set_table] at table
          exact ⟨forms, .set history, held, bufferSize, table⟩

/-- A new context under any calls, with any bounds, failing or not, and with switches set in
between. The normalisations that complete make one history. The holding area has the text of the
latest form in it that is shorter than the area, or nothing if there is none, and it always keeps a
place free. A normalisation that is refused is one of an input that is no text or of a bound without
room, and it leaves the context as it was; every other one completes. -/
theorem held_latest {policy : Policy} (nonempty : ∀ rewrite ∈ policy.table, rewrite.encoded ≠ [])
    {size : Int} (large : 2 ≤ size) (uses : List Use) :
    ∃ context forms, make policy size = .ok context ∧
      History size.toNat policy uses forms ∧
      (∀ others, History size.toNat policy uses others → others = forms) ∧
      let after := context.afterUses uses
      after.held = (latestFit size.toNat forms).getD [] ∧
      (after.held.length : Int) ≤ size - 1 ∧
      ∀ data bound,
        (∃ form, after.policy.Completes (bound.getD size) data form ∧
          (after.normalize data bound).1 = .ok form) ∨
        ((∀ form, ¬ after.policy.Completes (bound.getD size) data form) ∧
          ∃ fault : Fault, fault.kind = .invalidInput ∧
            after.normalize data bound = (.error fault, after)) := by
  let context : Context :=
    { policy, bufferSize := size.toNat, two_le_bufferSize := by omega }
  have made : make policy size = .ok context := dif_pos large
  obtain ⟨forms, history, held, bufferSize, table⟩ := @exists_history context nonempty uses
  refine ⟨context, forms, made, history, fun others other => other.unique history, held, ?_, ?_⟩
  · rw [held]
    cases latest : latestFit context.bufferSize forms with
    | none =>
        change ((0 : Nat) : Int) ≤ size - 1
        omega
    | some text =>
        have short : text.length < size.toNat := latestFit_length latest
        rw [Option.getD_some]
        omega
  · intro data bound
    have kept : ∀ rewrite ∈ (context.afterUses uses).policy.table, rewrite.encoded ≠ [] := by
      rwa [table]
    have limit : bound.getD (context.afterUses uses).bufferSize = bound.getD size := by
      rw [bufferSize]
      cases bound with
      | none => exact Int.toNat_of_nonneg (by omega)
      | some _ => rfl
    have outcome := normalize_outcome kept data bound
    rw [limit] at outcome
    rcases outcome with ⟨form, completes, normalized⟩ | refused
    · exact .inl ⟨form, completes, congrArg Prod.fst normalized⟩
    · exact .inr refused

def mixedUses : List Use :=
  [.call (.normalize (.text "ABC".toList) none), .call (.normalize (.text "abcd".toList) (some 9)),
    .call (.equivalent (.text "x%2F".toList) (.int 1) none), .set .caseFold false,
    .call (.requireEquivalent (.text ['a']) (.text "%41B".toList) (some 3)),
    .call (.normalize (.text ['c']) (some 0))]

theorem held_latest_mixed :
    (∀ rewrite ∈ Policy.table {}, rewrite.encoded ≠ []) ∧ (2 : Int) ≤ 4 ∧
    ∃ context forms, make {} 4 = .ok context ∧ History 4 {} mixedUses forms ∧
      (context.afterUses (mixedUses.take 2)).held = "abc".toList ∧
      (context.afterUses (mixedUses.take 3)).held = "x/".toList ∧
      (latestFit 4 forms).getD [] = "%4".toList ∧
      ((context.afterUses mixedUses).held.length : Int) ≤ 3 := by
  have nonempty : ∀ rewrite ∈ Policy.table {}, rewrite.encoded ≠ [] := by decide
  obtain ⟨context, forms, made, history, _, held, short, _⟩ :=
    held_latest nonempty (by decide : (2 : Int) ≤ 4) mixedUses
  have same : context = { bufferSize := 4 } := Except.ok.inj (made.symm.trans rfl)
  subst same
  refine ⟨nonempty, by decide, _, forms, made, history, by rfl, by rfl, ?_, short⟩
  exact held.symm.trans (by rfl)

end Context

end ProtocolGate.Canonical
