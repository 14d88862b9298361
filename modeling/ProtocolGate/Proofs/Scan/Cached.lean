import ProtocolGate.Engine.Cached

/-!
The store of compiled rules does not show. As long as every stored rule is the compilation of its
own key, a rule from the store is the rule compiled anew, the store stays like that, and scans and
engines on the store do what they do without one. Every store that comes from use is like that.
-/

namespace ProtocolGate

namespace Pattern.Cache

/-- Every stored rule is the compilation of its own key. -/
def Sound (cache : Cache) : Prop :=
  ∀ entry ∈ cache.entries, Pattern.compile entry.1.ignoreCase entry.1.rule = .ok entry.2

theorem empty_sound : Sound {} := by
  intro entry member
  contradiction

variable {cache : Cache}

theorem Sound.compile (sound : cache.Sound) (ignoreCase : Bool) (rule : Text) :
    (cache.compile ignoreCase rule).1 = Pattern.compile ignoreCase rule ∧
      (cache.compile ignoreCase rule).2.Sound := by
  unfold Cache.compile
  dsimp only
  split
  · rename_i compiled found
    obtain ⟨before, after, shape, _⟩ := List.lookup_eq_some_iff.mp found
    have known := sound (⟨rule, ignoreCase⟩, compiled) (by simp [shape])
    refine ⟨known.symm, fun entry member => ?_⟩
    rcases List.mem_cons.mp member with rfl | other
    · exact known
    · exact sound entry (List.mem_filter.mp other).1
  · split
    · rename_i compiled compiles
      refine ⟨compiles.symm, fun entry member => ?_⟩
      rcases List.mem_cons.mp (List.mem_of_mem_take member) with rfl | other
      · exact compiles
      · exact sound entry other
    · rename_i refused
      exact ⟨refused.symm, sound⟩

theorem Sound.matchLength? (sound : cache.Sound) (ignoreCase : Bool) (rule text : Text) :
    (cache.matchLength? ignoreCase rule text).1 =
        (Pattern.compile ignoreCase rule).map (·.matchLength? text) ∧
      (cache.matchLength? ignoreCase rule text).2.Sound := by
  obtain ⟨same, after⟩ := sound.compile ignoreCase rule
  refine ⟨?_, after⟩
  rw [← same]
  rfl

def used (uses : List CacheKey) : Cache :=
  uses.foldl (fun cache key => (cache.compile key.ignoreCase key.rule).2) {}

theorem used_sound (uses : List CacheKey) : (used uses).Sound := by
  have kept (cache : Cache) (sound : cache.Sound) :
      (uses.foldl (fun cache key => (cache.compile key.ignoreCase key.rule).2) cache).Sound := by
    induction uses generalizing cache with
    | nil => exact sound
    | cons key later ih => exact ih _ (sound.compile key.ignoreCase key.rule).2
  exact kept {} empty_sound

end Pattern.Cache

namespace Scan

variable {cache : Pattern.Cache}

theorem firstMatchCached_spec (sound : cache.Sound) (ignoreCase : Bool) (text : Text)
    (states : List State) :
    (firstMatchCached ignoreCase text states cache).1 =
        firstMatch (candidates ignoreCase states) text ∧
      (firstMatchCached ignoreCase text states cache).2.Sound := by
  -- Every trial leaves another store, so the induction is over all sound ones.
  induction states generalizing cache with
  | nil => exact ⟨rfl, sound⟩
  | cons state others ih =>
      obtain ⟨same, after⟩ := sound.matchLength? ignoreCase state.rule text
      simp only [candidates] at ih
      simp only [candidates, List.map_cons, firstMatch, firstMatchCached]
      rcases looked : cache.matchLength? ignoreCase state.rule text with ⟨answer, next⟩
      rw [looked] at same after
      dsimp only at same after
      subst same
      cases Pattern.compile ignoreCase state.rule with
      | error cause => exact ⟨rfl, after⟩
      | ok compiled =>
          simp only [Except.map]
          cases compiled.matchLength? text with
          | none => exact ih after
          | some length =>
              cases length with
              | zero => exact ih after
              | succ length =>
                  cases judged : verdict state (text.take (length + 1)) with
                  | error failure =>
                      simp only [judged]
                      exact ⟨trivial, after⟩
                  | ok accepted =>
                      cases accepted with
                      | true =>
                          simp only [judged]
                          exact ⟨trivial, after⟩
                      | false =>
                          simp only [judged]
                          exact ih after

theorem segmentsCached_spec (sound : cache.Sound) (ignoreCase : Bool) (states : List State)
    (rounds : Nat) (text : Text) :
    (segmentsCached ignoreCase states rounds text cache).1 =
        segmentsFrom (candidates ignoreCase states) rounds text ∧
      (segmentsCached ignoreCase states rounds text cache).2.Sound := by
  induction rounds generalizing text cache with
  | zero => exact ⟨rfl, sound⟩
  | succ rounds ih =>
      cases text with
      | nil => exact ⟨rfl, sound⟩
      | cons c rest =>
          obtain ⟨same, after⟩ := firstMatchCached_spec sound ignoreCase (c :: rest) states
          simp only [segmentsCached, segmentsFrom]
          rcases searched : firstMatchCached ignoreCase (c :: rest) states cache with
            ⟨answer, next⟩
          rw [searched] at same after
          dsimp only at same after
          subst same
          cases firstMatch (candidates ignoreCase states) (c :: rest) with
          | error failure => exact ⟨rfl, after⟩
          | ok found =>
              cases found with
              | none =>
                  obtain ⟨later, kept⟩ := ih after rest
                  refine ⟨?_, kept⟩
                  dsimp only
                  rw [later]
              | some taken =>
                  obtain ⟨state, length⟩ := taken
                  obtain ⟨later, kept⟩ := ih after ((c :: rest).drop length)
                  refine ⟨?_, kept⟩
                  dsimp only
                  rw [later]

end Scan

theorem scanCached_spec {cache : Pattern.Cache} (sound : cache.Sound) (ignoreCase : Bool)
    (canonical : Canonical.Form) (states : List State) (initialState : Int) :
    (scanCached cache ignoreCase canonical states initialState).1 =
        scan ignoreCase canonical states initialState ∧
      (scanCached cache ignoreCase canonical states initialState).2.Sound := by
  obtain ⟨same, after⟩ := Scan.segmentsCached_spec sound ignoreCase states canonical.text.length
    canonical.text
  refine ⟨?_, after⟩
  simp only [scan, Scan.segments, ← same]
  rfl

namespace Engine

variable {cache : Pattern.Cache}

theorem scanFormCached_spec (sound : cache.Sound) (engine : Engine) (form : Canonical.Form) :
    (engine.scanFormCached cache form).1 = (engine.scanForm form).1 ∧
      (engine.scanFormCached cache form).2.1 = (engine.scanForm form).2 ∧
      (engine.scanFormCached cache form).2.2.Sound := by
  obtain ⟨same, after⟩ := scanCached_spec sound engine.registry.ignoreCase form
    engine.registry.states initialState
  unfold scanFormCached scanForm
  rw [← same]
  rcases scanned : scanCached cache engine.registry.ignoreCase form engine.registry.states
    initialState with ⟨failure | outcome, next⟩ <;> rw [scanned] at after
  · exact ⟨rfl, rfl, after⟩
  · dsimp only
    cases Governance.charge engine.accumulated (.float outcome.cost) with
    | error fault => exact ⟨rfl, rfl, after⟩
    | ok accumulated => exact ⟨rfl, rfl, after⟩

theorem processCached_spec (sound : cache.Sound) (engine : Engine) (data : Datum) :
    (engine.processCached cache data).1 = (engine.process data).1 ∧
      (engine.processCached cache data).2.1 = (engine.process data).2 ∧
      (engine.processCached cache data).2.2.Sound := by
  unfold processCached process
  cases engine.initialized with
  | false => exact ⟨rfl, rfl, sound⟩
  | true =>
      rw [if_pos rfl, if_pos rfl]
      rcases Canonical.inputText data with fault | _ | ⟨c, rest⟩
      · exact ⟨rfl, rfl, sound⟩
      · exact ⟨rfl, rfl, sound⟩
      · rcases engine.context.normalize data with ⟨fault | form, context⟩
        · exact ⟨rfl, rfl, sound⟩
        · dsimp only
          split
          · exact ⟨rfl, rfl, sound⟩
          · exact scanFormCached_spec sound _ form

end Engine

end ProtocolGate
