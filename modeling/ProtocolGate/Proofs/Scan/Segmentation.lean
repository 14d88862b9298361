import ProtocolGate.Proofs.Scan.FirstMatch

/-!
The segments of a scanned text. There is one way to cut a text into skipped characters and matches
so that each place gets what the states give it, and a scan finds it in at most one round for each
character.
-/

namespace ProtocolGate

namespace Segment

def content : Segment → Text
  | skipped c => [c]
  | matched _ content => content

def match? : Segment → Option (State × Text)
  | skipped _ => none
  | matched state content => some (state, content)

def IsMatch (segment : Segment) (state : State) (length : Nat) : Prop :=
  ∃ content, segment = matched state content ∧ content.length = length

end Segment

namespace Scan

/-- A segment is what the states give at the head of a text: the match of the first state that takes
a part, or a skipped character if no state takes any. -/
structure Fits (ignoreCase : Bool) (states : List State) (text : Text) (segment : Segment) :
    Prop where
  isMatch : ∀ state length,
    segment.IsMatch state length ↔ FirstTakes ignoreCase states text state length
  isSkipped : segment.isSkipped = true ↔
    ∀ state ∈ states, ∀ length, ¬ Takes ignoreCase state text length

/-- Consecutive segments of a text, each of which fits at the place where it starts. -/
structure Segmentation (ignoreCase : Bool) (states : List State) (text : Text)
    (segments : List Segment) : Prop where
  covers : segments.flatMap Segment.content = text
  fits : ∀ before segment after, segments = before ++ segment :: after →
    Fits ignoreCase states (text.drop (before.flatMap Segment.content).length) segment

variable {ignoreCase : Bool} {states : List State} {text : Text}

theorem fits_skipped {c : Char}
    (unmatched : ∀ state length, ¬ FirstTakes ignoreCase states text state length) :
    Fits ignoreCase states text (.skipped c) := by
  refine ⟨fun state length => ?_, ?_⟩
  · constructor
    · rintro ⟨content, same, _⟩
      contradiction
    · intro found
      exact absurd found (unmatched state length)
  · exact ⟨fun _ => none_takes_iff.mpr unmatched, fun _ => rfl⟩

theorem fits_matched {state : State} {content : Text}
    (found : FirstTakes ignoreCase states text state content.length) :
    Fits ignoreCase states text (.matched state content) := by
  refine ⟨fun other length => ?_, ?_⟩
  · constructor
    · rintro ⟨same, shape, rfl⟩
      obtain ⟨rfl, rfl⟩ := Segment.matched.inj shape
      exact found
    · intro again
      obtain ⟨rfl, rfl⟩ := found.unique again
      exact ⟨content, rfl, rfl⟩
  · constructor
    · intro skipped
      contradiction
    · intro unmatched
      exact absurd found (none_takes_iff.mp unmatched state content.length)

theorem Fits.content_pos {segment : Segment} (fits : Fits ignoreCase states text segment) :
    0 < segment.content.length := by
  cases segment with
  | skipped c => simp [Segment.content]
  | matched state content =>
      exact ((fits.isMatch state content.length).mp ⟨content, rfl, rfl⟩).takes.nonempty

theorem Fits.unique {segment other : Segment} (fits : Fits ignoreCase states text segment)
    (otherFits : Fits ignoreCase states text other) (opens : segment.content <+: text)
    (otherOpens : other.content <+: text) : segment = other := by
  cases segment with
  | skipped c =>
      have skipped := otherFits.isSkipped.mpr (fits.isSkipped.mp rfl)
      cases other with
      | skipped d =>
          have same := List.prefix_of_prefix_length_le opens otherOpens (by simp [Segment.content])
          have equal := same.eq_of_length (by simp [Segment.content])
          simp only [Segment.content, List.cons.injEq] at equal
          rw [equal.1]
      | matched state content => contradiction
  | matched state content =>
      have found := (fits.isMatch state content.length).mp ⟨content, rfl, rfl⟩
      obtain ⟨otherContent, shape, size⟩ := (otherFits.isMatch state content.length).mpr found
      subst shape
      have same := List.prefix_of_prefix_length_le opens otherOpens (Nat.le_of_eq size.symm)
      have equal := same.eq_of_length size.symm
      simp only [Segment.content] at equal
      rw [equal]

theorem segmentation_nil_iff {segments : List Segment} :
    Segmentation ignoreCase states [] segments ↔ segments = [] := by
  constructor
  · intro segmentation
    cases segments with
    | nil => rfl
    | cons segment later =>
        have positive := (segmentation.fits [] segment later rfl).content_pos
        have covered := congrArg List.length segmentation.covers
        simp only [List.flatMap_cons, List.length_append, List.length_nil] at covered
        omega
  · rintro rfl
    exact ⟨rfl, fun before segment after shape => by simp at shape⟩

theorem segmentation_cons_iff {segment : Segment} {later : List Segment} :
    Segmentation ignoreCase states text (segment :: later) ↔
      Fits ignoreCase states text segment ∧
      ∃ rest, text = segment.content ++ rest ∧ Segmentation ignoreCase states rest later := by
  constructor
  · intro segmentation
    have covers := segmentation.covers.symm
    rw [List.flatMap_cons] at covers
    refine ⟨segmentation.fits [] segment later rfl, _, covers, rfl, ?_⟩
    intro before next after shape
    have fits := segmentation.fits (segment :: before) next after (by rw [shape]; rfl)
    rw [covers, List.flatMap_cons, List.length_append, ← List.drop_drop, List.drop_left] at fits
    exact fits
  · rintro ⟨fits, rest, rfl, tail⟩
    refine ⟨by rw [List.flatMap_cons, tail.covers], ?_⟩
    intro before next after shape
    cases before with
    | nil =>
        obtain ⟨rfl, rfl⟩ := List.cons.inj shape
        exact fits
    | cons head before =>
        obtain ⟨rfl, tailShape⟩ := List.cons.inj shape
        have nextFits := tail.fits before next after tailShape
        rw [List.flatMap_cons, List.length_append, ← List.drop_drop, List.drop_left]
        exact nextFits

theorem Segmentation.unique {segments others : List Segment}
    (segmentation : Segmentation ignoreCase states text segments)
    (other : Segmentation ignoreCase states text others) : segments = others := by
  induction segments generalizing text others with
  | nil =>
      obtain rfl : [] = text := segmentation.covers
      exact (segmentation_nil_iff.mp other).symm
  | cons segment later ih =>
      obtain ⟨fits, rest, covers, tail⟩ := segmentation_cons_iff.mp segmentation
      cases others with
      | nil =>
          obtain rfl : [] = text := other.covers
          exact segmentation_nil_iff.mp segmentation
      | cons otherSegment otherLater =>
          obtain ⟨otherFits, otherRest, otherCovers, otherTail⟩ := segmentation_cons_iff.mp other
          obtain rfl := fits.unique otherFits ⟨rest, covers.symm⟩ ⟨otherRest, otherCovers.symm⟩
          rw [covers] at otherCovers
          obtain rfl := List.append_cancel_left otherCovers
          rw [ih tail otherTail]

theorem Segmentation.length_le {segments : List Segment}
    (segmentation : Segmentation ignoreCase states text segments) :
    segments.length ≤ text.length := by
  induction segments generalizing text with
  | nil => simp
  | cons segment later ih =>
      obtain ⟨fits, rest, rfl, tail⟩ := segmentation_cons_iff.mp segmentation
      have positive := fits.content_pos
      have bound := ih tail
      simp only [List.length_cons, List.length_append]
      omega

theorem segmentsFrom_segmentation (ready : Ready ignoreCase states) {rounds : Nat}
    (enough : text.length ≤ rounds) :
    ∃ segments, segmentsFrom (candidates ignoreCase states) rounds text = .ok segments ∧
      Segmentation ignoreCase states text segments := by
  induction rounds generalizing text with
  | zero =>
      obtain rfl := List.eq_nil_of_length_eq_zero (Nat.le_zero.mp enough)
      exact ⟨[], rfl, segmentation_nil_iff.mpr rfl⟩
  | succ rounds ih =>
      cases text with
      | nil => exact ⟨[], rfl, segmentation_nil_iff.mpr rfl⟩
      | cons c rest =>
          obtain ⟨found, searched, spec⟩ := firstMatch_spec ready (c :: rest)
          rw [List.length_cons] at enough
          cases found with
          | none =>
              have unmatched (state : State) (length : Nat) :
                  ¬ FirstTakes ignoreCase states (c :: rest) state length := by
                rw [← spec]
                simp
              have short : rest.length ≤ rounds := by omega
              obtain ⟨later, scanned, tail⟩ := ih short
              refine ⟨.skipped c :: later, ?_, ?_⟩
              · simp only [segmentsFrom, searched, scanned, Except.map]
              · exact segmentation_cons_iff.mpr ⟨fits_skipped unmatched, rest, rfl, tail⟩
          | some taken =>
              obtain ⟨state, length⟩ := taken
              have first := (spec state length).mp rfl
              have positive := first.takes.nonempty
              have bound := first.takes.length_le
              have size : ((c :: rest).take length).length = length := by
                rw [List.length_take]
                omega
              have short : ((c :: rest).drop length).length ≤ rounds := by
                rw [List.length_drop, List.length_cons]
                omega
              obtain ⟨later, scanned, tail⟩ := ih short
              refine ⟨.matched state ((c :: rest).take length) :: later, ?_, ?_⟩
              · simp only [segmentsFrom, searched, scanned, Except.map]
              · refine segmentation_cons_iff.mpr ⟨fits_matched ?_, _, ?_, tail⟩
                · rw [size]
                  exact first
                · exact (List.take_append_drop length (c :: rest)).symm

theorem length_flatMap_content (segments : List Segment) :
    ((segments.filterMap Segment.record?).flatMap Record.content).length +
      segments.countP Segment.isSkipped = (segments.flatMap Segment.content).length := by
  induction segments with
  | nil => rfl
  | cons segment later ih =>
      rw [List.flatMap_cons, List.length_append, ← ih]
      cases segment with
      | skipped c =>
          simp only [List.filterMap_cons, Segment.record?, List.countP_cons, Segment.isSkipped,
            Segment.content, List.length_cons, List.length_nil, if_true]
          omega
      | matched state content =>
          simp only [List.filterMap_cons, Segment.record?, List.countP_cons, Segment.isSkipped,
            Segment.content, List.flatMap_cons, List.length_append, Record.ofMatch,
            Bool.false_eq_true, if_false]
          omega

/-- A scan cuts the text in the only way in which each place gets what the states give it. It takes
a round for each segment, and what it reports is what the segments are. -/
theorem scan_segmentation (ready : Ready ignoreCase states) (canonical : Canonical.Form)
    (initialState : Int) :
    ∃ segments outcome, scan ignoreCase canonical states initialState = .ok outcome ∧
      Segmentation ignoreCase states canonical.text segments ∧
      (∀ others, Segmentation ignoreCase states canonical.text others → others = segments) ∧
      segments.length ≤ canonical.text.length ∧
      (∀ rounds, canonical.text.length ≤ rounds →
        segmentsFrom (candidates ignoreCase states) rounds canonical.text = .ok segments) ∧
      outcome.records.map (fun record =>
          (record.content, record.length, record.source, record.recordType)) =
        (segments.filterMap Segment.match?).map (fun (state, content) =>
          (content, content.length, state.id, state.patternType.recordType)) ∧
      outcome.matchedStates =
        (segments.filterMap Segment.match?).map (fun (state, _) => state.id) ∧
      outcome.unmatched = segments.countP Segment.isSkipped ∧
      (outcome.records.flatMap Record.content).length + outcome.unmatched =
        canonical.text.length := by
  obtain ⟨segments, scanned, segmentation⟩ := segmentsFrom_segmentation ready (Nat.le_refl _)
  refine ⟨segments, .ofSegments canonical states initialState segments, ?_, segmentation, ?_,
    segmentation.length_le, ?_, ?_, ?_, rfl, ?_⟩
  · simp only [scan, Scan.segments, scanned, Except.map]
  · intro others other
    exact other.unique segmentation
  · intro rounds enough
    obtain ⟨others, again, other⟩ := segmentsFrom_segmentation ready enough
    rw [again, other.unique segmentation]
  · simp only [ScanOutcome.ofSegments, List.map_filterMap]
    congr 1
    funext segment
    cases segment <;> rfl
  · simp only [ScanOutcome.ofSegments, List.map_filterMap]
    congr 1
    funext segment
    cases segment <;> rfl
  · have covered := congrArg List.length segmentation.covers
    rw [← length_flatMap_content] at covered
    exact covered

def vetoStates : List State :=
  let blanks : State :=
    { id := 0, patternType := .dataPayload, rule := "b*".toList, accepting := true
      requiresZeroTrust := false }
  let refused : State :=
    { id := 1, patternType := .securityToken, rule := "aab".toList, accepting := false
      requiresZeroTrust := false, validator := some fun _ => .ok false }
  let single : State :=
    { id := 2, patternType := .auditMarker, rule := "a".toList, accepting := true
      requiresZeroTrust := false }
  [blanks, refused, single, blanks]

theorem scan_segmentation_veto :
    ∃ outcome, scan true { text := "aabx".toList } vetoStates 0 = .ok outcome ∧
      outcome.matchedStates = [2, 2, 0] ∧ outcome.unmatched = 1 ∧
      (outcome.records.flatMap Record.content).length + outcome.unmatched = 4 := by
  have compiles : ∀ state ∈ vetoStates, (Pattern.compile true state.rule).isOk = true := by
    decide +kernel
  have ready : Ready true vetoStates := by
    refine ⟨fun state member => Pattern.exists_compiled (compiles state member), ?_⟩
    intro state member validator given content
    simp only [vetoStates, List.mem_cons, List.not_mem_nil, or_false] at member
    rcases member with rfl | rfl | rfl | rfl
    · contradiction
    · obtain rfl := Option.some.inj given
      exact ⟨false, rfl⟩
    · contradiction
    · contradiction
  obtain ⟨_, outcome, scanned, _, _, _, _, _, _, _, total⟩ :=
    scan_segmentation ready { text := "aabx".toList } 0
  have computed : (scan true { text := "aabx".toList } vetoStates 0).toOption.map
      (fun outcome => (outcome.matchedStates, outcome.unmatched)) = some ([2, 2, 0], 1) := by
    decide +kernel
  rw [scanned] at computed
  obtain ⟨ids, skipped⟩ := Prod.mk.inj (Option.some.inj computed)
  exact ⟨outcome, scanned, ids, skipped, total⟩

end Scan

end ProtocolGate
