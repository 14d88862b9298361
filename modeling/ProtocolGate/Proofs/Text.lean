import ProtocolGate.Text

/-! Laws of lowering and of collapsing: what the results can no longer hold, which texts they leave
alone, and that a pattern without blanks occurs in a collapsed text only where it occurred
before. -/

namespace ProtocolGate

def IsCapital (c : Char) : Prop :=
  'A' ≤ c ∧ c ≤ 'Z'

theorem toLower_of_not_capital {c : Char} (small : ¬ IsCapital c) : c.toLower = c := by
  unfold Char.toLower
  split
  · rename_i capital
    exact absurd capital small
  · rfl

theorem toNat_toLower {c : Char} (capital : IsCapital c) : c.toLower.toNat = c.toNat + 32 := by
  have bounds : 65 ≤ c.toNat ∧ c.toNat ≤ 90 := capital
  unfold Char.toLower
  split
  · change (c.val + 32).toNat = c.val.toNat + 32
    rw [UInt32.toNat_add]
    have small : c.val.toNat ≤ 90 := bounds.2
    exact Nat.mod_eq_of_lt (by simp; omega)
  · rename_i outside
    exact absurd capital outside

theorem toNat_toUpper (c : Char) :
    c.toUpper.toNat = if 97 ≤ c.toNat ∧ c.toNat ≤ 122 then c.toNat - 32 else c.toNat := by
  unfold Char.toUpper
  split
  · rename_i small
    have bounds : 97 ≤ c.toNat ∧ c.toNat ≤ 122 := small
    have shift : ('A'.val - 'a'.val).toNat = 2 ^ 32 - 32 := by decide
    have same : c.val.toNat = c.toNat := rfl
    rw [if_pos bounds]
    change (c.val + ('A'.val - 'a'.val)).toNat = c.toNat - 32
    rw [UInt32.toNat_add, shift, same]
    omega
  · rename_i other
    exact (if_neg other).symm

theorem not_capital_toLower (c : Char) : ¬ IsCapital c.toLower := by
  by_cases capital : IsCapital c
  · intro ⟨_, upper⟩
    have bound : c.toLower.toNat ≤ 90 := upper
    have lower : 65 ≤ c.toNat := capital.1
    rw [toNat_toLower capital] at bound
    omega
  · rwa [toLower_of_not_capital capital]

@[simp] theorem toLower_toLower (c : Char) : c.toLower.toLower = c.toLower :=
  toLower_of_not_capital (not_capital_toLower c)

theorem eq_of_toLower_eq {c d : Char} (lowered : c.toLower = d)
    (notLetter : ¬ (97 ≤ d.toNat ∧ d.toNat ≤ 122)) : c = d := by
  by_cases capital : IsCapital c
  · have bounds : 65 ≤ c.toNat ∧ c.toNat ≤ 90 := capital
    have shifted := toNat_toLower capital
    rw [lowered] at shifted
    omega
  · rwa [toLower_of_not_capital capital] at lowered

@[simp] theorem asciiLower_nil : asciiLower [] = [] := rfl

@[simp] theorem asciiLower_cons (c : Char) (rest : Text) :
    asciiLower (c :: rest) = c.toLower :: asciiLower rest := rfl

@[simp] theorem asciiLower_append (left right : Text) :
    asciiLower (left ++ right) = asciiLower left ++ asciiLower right :=
  List.map_append

@[simp] theorem length_asciiLower (text : Text) : (asciiLower text).length = text.length :=
  List.length_map _

theorem asciiLower_take (count : Nat) (text : Text) :
    asciiLower (text.take count) = (asciiLower text).take count :=
  List.map_take

theorem asciiLower_drop (count : Nat) (text : Text) :
    asciiLower (text.drop count) = (asciiLower text).drop count :=
  List.map_drop

@[simp] theorem asciiLower_asciiLower (text : Text) :
    asciiLower (asciiLower text) = asciiLower text := by
  simp [asciiLower]

theorem asciiLower_eq_self {text : Text} (small : ∀ c ∈ text, ¬ IsCapital c) :
    asciiLower text = text := by
  induction text with
  | nil => rfl
  | cons c rest ih =>
      rw [asciiLower_cons, toLower_of_not_capital (small c (by simp)),
        ih fun d member => small d (by simp [member])]

theorem not_capital_of_mem_asciiLower {c : Char} {text : Text} (member : c ∈ asciiLower text) :
    ¬ IsCapital c := by
  obtain ⟨original, _, lowered⟩ := List.mem_map.mp member
  rw [← lowered]
  exact not_capital_toLower original

theorem isBlank_toLower (c : Char) : isBlank c.toLower = isBlank c := by
  by_cases capital : IsCapital c
  · have bounds : 65 ≤ c.toNat ∧ c.toNat ≤ 90 := capital
    have shifted := toNat_toLower capital
    have different (d : Char) (small : d.toNat < 65) :
        (c.toLower == d) = false ∧ (c == d) = false := by
      constructor <;> rw [beq_eq_false_iff_ne] <;> rintro rfl <;> omega
    simp only [isBlank, different ' ' (by decide), different '\t' (by decide),
      different '\n' (by decide), different '\r' (by decide)]
  · rw [toLower_of_not_capital capital]

@[simp] theorem collapseFrom_nil (inRun : Bool) : collapseFrom inRun [] = [] := rfl

theorem collapseFrom_cons_blank {c : Char} (blank : isBlank c = true) (inRun : Bool) (rest : Text) :
    collapseFrom inRun (c :: rest) =
      if inRun then collapseFrom true rest else ' ' :: collapseFrom true rest := by
  simp [collapseFrom, blank]

theorem collapseFrom_cons_other {c : Char} (other : isBlank c = false) (inRun : Bool)
    (rest : Text) : collapseFrom inRun (c :: rest) = c :: collapseFrom false rest := by
  simp [collapseFrom, other]

theorem asciiLower_collapseFrom (inRun : Bool) (text : Text) :
    asciiLower (collapseFrom inRun text) = collapseFrom inRun (asciiLower text) := by
  induction text generalizing inRun with
  | nil => rfl
  | cons c rest ih =>
      rw [asciiLower_cons]
      by_cases blank : isBlank c = true
      · rw [collapseFrom_cons_blank blank, collapseFrom_cons_blank (by rwa [isBlank_toLower])]
        cases inRun <;> simp [ih]
      · simp only [Bool.not_eq_true] at blank
        rw [collapseFrom_cons_other blank, collapseFrom_cons_other (by rwa [isBlank_toLower]),
          asciiLower_cons, ih]

theorem eq_space_of_mem_collapseFrom {c : Char} {inRun : Bool} {text : Text}
    (member : c ∈ collapseFrom inRun text) : c = ' ' ∨ (c ∈ text ∧ isBlank c = false) := by
  induction text generalizing inRun with
  | nil => simp at member
  | cons d rest ih =>
      by_cases blank : isBlank d = true
      · rw [collapseFrom_cons_blank blank] at member
        have later : c = ' ' ∨ c ∈ collapseFrom true rest := by
          cases inRun <;> simp_all
        rcases later with space | member
        · exact Or.inl space
        · exact (ih member).imp_right fun found => ⟨by simp [found.1], found.2⟩
      · simp only [Bool.not_eq_true] at blank
        rw [collapseFrom_cons_other blank] at member
        rcases List.mem_cons.mp member with same | member
        · subst same
          exact Or.inr ⟨by simp, blank⟩
        · exact (ih member).imp_right fun found => ⟨by simp [found.1], found.2⟩

/-- Two spaces never stand side by side in a collapsed text, and none opens it inside a run. -/
theorem not_spaces_collapseFrom (inRun : Bool) (text : Text) :
    ¬ [' ', ' '] <:+: collapseFrom inRun text ∧
      (inRun = true → ¬ [' '] <+: collapseFrom inRun text) := by
  induction text generalizing inRun with
  | nil => simp
  | cons c rest ih =>
      by_cases blank : isBlank c = true
      · rw [collapseFrom_cons_blank blank]
        cases inRun with
        | true => simpa using ih true
        | false =>
            refine ⟨?_, by simp⟩
            simp only [Bool.false_eq_true, if_false, List.infix_cons_iff, List.cons_prefix_cons,
              true_and, not_or]
            exact ⟨(ih true).2 rfl, (ih true).1⟩
      · simp only [Bool.not_eq_true] at blank
        have notSpace : ' ' ≠ c := by
          rintro rfl
          simp [isBlank] at blank
        rw [collapseFrom_cons_other blank]
        simp only [List.infix_cons_iff, List.cons_prefix_cons, notSpace, false_and, false_or,
          not_false_eq_true, implies_true, and_true]
        exact (ih false).1

theorem collapseFrom_eq_self {text : Text} (inRun : Bool)
    (blanks : ∀ c ∈ text, isBlank c = true → c = ' ') (apart : ¬ [' ', ' '] <:+: text)
    (opening : inRun = true → ¬ [' '] <+: text) : collapseFrom inRun text = text := by
  induction text generalizing inRun with
  | nil => rfl
  | cons c rest ih =>
      simp only [List.infix_cons_iff, not_or] at apart
      have restBlanks : ∀ d ∈ rest, isBlank d = true → d = ' ' :=
        fun d member => blanks d (by simp [member])
      by_cases blank : isBlank c = true
      · have space : c = ' ' := blanks c (by simp) blank
        subst space
        have outside : inRun = false := by
          cases inRun
          · rfl
          · simp at opening
        rw [collapseFrom_cons_blank blank, outside]
        simp only [Bool.false_eq_true, if_false]
        rw [ih true restBlanks apart.2 fun _ => by simpa using apart.1]
      · simp only [Bool.not_eq_true] at blank
        rw [collapseFrom_cons_other blank, ih false restBlanks apart.2 (by simp)]

theorem length_collapseFrom_le (inRun : Bool) (text : Text) :
    (collapseFrom inRun text).length ≤ text.length := by
  induction text generalizing inRun with
  | nil => exact Nat.le_refl 0
  | cons c rest ih =>
      by_cases blank : isBlank c = true
      · rw [collapseFrom_cons_blank blank]
        have later := ih true
        cases inRun <;> simp <;> omega
      · simp only [Bool.not_eq_true] at blank
        rw [collapseFrom_cons_other blank]
        have later := ih false
        simp only [List.length_cons]
        omega

theorem prefix_of_prefix_collapseFrom {form text : Text} (solid : ∀ c ∈ form, isBlank c = false)
    (opens : form <+: collapseFrom false text) : form <+: text := by
  induction form generalizing text with
  | nil => simp
  | cons c form ih =>
      have solidHead : isBlank c = false := solid c (by simp)
      cases text with
      | nil => simp at opens
      | cons d rest =>
          by_cases blank : isBlank d = true
          · rw [collapseFrom_cons_blank blank] at opens
            simp only [Bool.false_eq_true, if_false, List.cons_prefix_cons] at opens
            rw [opens.1] at solidHead
            simp [isBlank] at solidHead
          · simp only [Bool.not_eq_true] at blank
            rw [collapseFrom_cons_other blank, List.cons_prefix_cons] at opens
            rw [List.cons_prefix_cons]
            exact ⟨opens.1, ih (fun e member => solid e (by simp [member])) opens.2⟩

theorem infix_of_infix_collapseFrom {form text : Text} {inRun : Bool} (nonempty : form ≠ [])
    (solid : ∀ c ∈ form, isBlank c = false) (occurs : form <:+: collapseFrom inRun text) :
    form <:+: text := by
  induction text generalizing inRun with
  | nil => simpa using occurs
  | cons c rest ih =>
      by_cases blank : isBlank c = true
      · rw [collapseFrom_cons_blank blank] at occurs
        have later : form <:+: collapseFrom true rest := by
          cases inRun with
          | true => simpa using occurs
          | false =>
              simp only [Bool.false_eq_true, if_false, List.infix_cons_iff] at occurs
              refine occurs.resolve_left fun opens => ?_
              obtain ⟨d, tail, rfl⟩ := List.exists_cons_of_ne_nil nonempty
              have solidHead : isBlank d = false := solid d (by simp)
              rw [(List.cons_prefix_cons.mp opens).1] at solidHead
              simp [isBlank] at solidHead
        exact List.infix_cons (ih later)
      · simp only [Bool.not_eq_true] at blank
        rw [collapseFrom_cons_other blank, List.infix_cons_iff] at occurs
        rcases occurs with opens | later
        · have whole : form <+: collapseFrom false (c :: rest) := by
            rwa [collapseFrom_cons_other blank]
          exact (prefix_of_prefix_collapseFrom solid whole).isInfix
        · exact List.infix_cons (ih later)

end ProtocolGate
