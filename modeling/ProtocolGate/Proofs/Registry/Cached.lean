import ProtocolGate.Engine.Cached
import ProtocolGate.Proofs.Pattern.Calls
import ProtocolGate.Proofs.Registry.Calls
import ProtocolGate.Proofs.Scan.Outcome

/-!
A registry and its scans on the shared store of compiled rules. They use the store through calls
alone, as all others do, so nothing that happens to the store in between changes what is registered
or how a scan comes out, and a rule that has been accepted compiles ever after.
-/

namespace ProtocolGate

namespace Scan

theorem firstMatchCached_becomes (ignoreCase : Bool) (text : Text) (states : List State)
    (cache : Pattern.Cache) : cache.Becomes (firstMatchCached ignoreCase text states cache).2 := by
  induction states generalizing cache with
  | nil => exact .refl cache
  | cons state others ih =>
      have call := cache.becomes_perform (.matchPrefix ignoreCase state.rule text)
      simp only [Pattern.Cache.perform] at call
      unfold firstMatchCached
      rcases looked : cache.matchLength? ignoreCase state.rule text with
        ⟨cause | none | zero | length, next⟩ <;> rw [looked] at call
      · exact call
      · exact call.trans (ih next)
      · exact call.trans (ih next)
      · dsimp only at call
        rcases judged : verdict state (text.take (length + 1)) with failure | _ | _ <;>
          simp only [judged]
        · exact call
        · exact call.trans (ih next)
        · exact call

theorem segmentsCached_becomes (ignoreCase : Bool) (states : List State) (rounds : Nat)
    (text : Text) (cache : Pattern.Cache) :
    cache.Becomes (segmentsCached ignoreCase states rounds text cache).2 := by
  induction rounds generalizing text cache with
  | zero => exact .refl cache
  | succ rounds ih =>
      cases text with
      | nil => exact .refl cache
      | cons c rest =>
          have search := firstMatchCached_becomes ignoreCase (c :: rest) states cache
          unfold segmentsCached
          rcases searched : firstMatchCached ignoreCase (c :: rest) states cache with
            ⟨failure | none | found, next⟩ <;> rw [searched] at search
          · exact search
          · exact search.trans (ih rest next)
          · exact search.trans (ih _ next)

theorem scan_error {ignoreCase : Bool} {form : Canonical.Form} {states : List State}
    {initialState : Int} {failure : Failure}
    (compiles : ∀ state ∈ states, ∃ compiled, Pattern.compile ignoreCase state.rule = .ok compiled)
    (failed : scan ignoreCase form states initialState = .error failure) :
    ∃ message, failure = .raised message := by
  obtain ⟨message, raised, _⟩ := segmentsFrom_error compiles (error_of_map_error failed)
  exact ⟨message, raised⟩

end Scan

theorem scanCached_becomes (cache : Pattern.Cache) (ignoreCase : Bool)
    (canonical : Canonical.Form) (states : List State) (initialState : Int) :
    cache.Becomes (scanCached cache ignoreCase canonical states initialState).2 :=
  Scan.segmentsCached_becomes ignoreCase states canonical.text.length canonical.text cache

namespace Registry

theorem registerCached_becomes (registry : Registry) (cache : Pattern.Cache) (patternType : Datum)
    (rule : Option Text) (validator : Option Validator) (requiresZeroTrust : Option Bool) :
    cache.Becomes (registry.registerCached cache patternType rule validator
      requiresZeroTrust).2 := by
  have call := cache.becomes_perform (.compile registry.ignoreCase (rule.getD []))
  simp only [Pattern.Cache.perform] at call
  unfold registerCached
  dsimp only
  split
  · exact .refl cache
  split
  · exact .refl cache
  split
  · exact .refl cache
  split
  · exact .refl cache
  split
  · rename_i refused
    rwa [refused] at call
  · rename_i compiled
    rwa [compiled] at call

theorem registerCached_spec {cache : Pattern.Cache} (sound : cache.Sound) (registry : Registry)
    (patternType : Datum) (rule : Option Text) (validator : Option Validator)
    (requiresZeroTrust : Option Bool) :
    (registry.registerCached cache patternType rule validator requiresZeroTrust).1 =
      registry.register patternType rule validator requiresZeroTrust := by
  have same := (sound.compile registry.ignoreCase (rule.getD [])).1
  unfold registerCached register
  dsimp only
  rw [← same]
  split
  · rfl
  split
  · rfl
  split
  · rfl
  cases PatternType.ofDatum? patternType with
  | none => rfl
  | some known =>
      rcases cache.compile registry.ignoreCase (rule.getD []) with ⟨cause | compiled, after⟩
      · rfl
      · rfl

theorem run_compiles (ignoreCase zeroTrust : Bool) (limits : Limits) (calls : List Call) :
    ∀ state ∈ (({ ignoreCase, zeroTrust, limits } : Registry).run calls).states,
      ∃ compiled, Pattern.compile ignoreCase state.rule = .ok compiled := by
  intro state member
  have consistent := run_consistent (consistent_empty ignoreCase zeroTrust limits) calls
  have settings := run_settings { ignoreCase, zeroTrust, limits } calls
  have compiles := (consistent.rules state member).2.2
  rwa [settings.1] at compiles

/-- What happens to a registry and to the store, which pattern engines elsewhere use as well. -/
inductive Use where
  | engine (call : Pattern.Call)
  | registry (call : Call)
  | scan (canonical : Canonical.Form) (initialState : Int)

def Use.changes : Use → List Call
  | .registry call => [call]
  | .engine _ | .scan .. => []

structure Shared where
  registry : Registry
  cache : Pattern.Cache := {}

namespace Shared

def use (shared : Shared) : Use → Shared
  | .engine call => { shared with cache := (shared.cache.perform call).2 }
  | .registry (.register patternType rule validator requiresZeroTrust) =>
    match shared.registry.registerCached shared.cache patternType rule validator
      requiresZeroTrust with
    | (.ok (_, registry), cache) => { registry, cache }
    | (.error _, cache) => { shared with cache }
  | .registry (.addTransition source target symbol weight validator) =>
    { shared with
      registry := shared.registry.perform (.addTransition source target symbol weight validator) }
  | .scan canonical initialState =>
    let (_, cache) := scanCached shared.cache shared.registry.ignoreCase canonical
      shared.registry.states initialState
    { shared with cache }

def run (shared : Shared) (uses : List Use) : Shared :=
  uses.foldl use shared

theorem use_becomes (shared : Shared) (use : Use) :
    shared.cache.Becomes (shared.use use).cache := by
  cases use with
  | engine call => exact shared.cache.becomes_perform call
  | registry call =>
      cases call with
      | register patternType rule validator requiresZeroTrust =>
          have becomes := shared.registry.registerCached_becomes shared.cache patternType rule
            validator requiresZeroTrust
          simp only [Shared.use]
          split <;> rename_i registered <;> rwa [registered] at becomes
      | addTransition => exact .refl shared.cache
  | scan canonical initialState =>
      exact scanCached_becomes shared.cache shared.registry.ignoreCase canonical
        shared.registry.states initialState

theorem run_becomes (shared : Shared) (uses : List Use) :
    shared.cache.Becomes (shared.run uses).cache := by
  induction uses generalizing shared with
  | nil => exact .refl shared.cache
  | cons use later ih => exact (shared.use_becomes use).trans (ih (shared.use use))

variable {shared : Shared}

theorem use_registry (sound : shared.cache.Sound) (use : Use) :
    (shared.use use).registry = shared.registry.run use.changes := by
  cases use with
  | engine | scan => rfl
  | registry call =>
      cases call with
      | addTransition => rfl
      | register patternType rule validator requiresZeroTrust =>
          simp only [Shared.use, Use.changes, Registry.run, List.foldl_cons, List.foldl_nil,
            perform, ← registerCached_spec sound]
          rcases shared.registry.registerCached shared.cache patternType rule validator
            requiresZeroTrust with ⟨fault | ⟨state, registry⟩, cache⟩
          · rfl
          · rfl

theorem run_registry (proper : shared.cache.Proper) (uses : List Use) :
    (shared.run uses).registry = shared.registry.run (uses.flatMap Use.changes) := by
  induction uses generalizing shared with
  | nil => rfl
  | cons use later ih =>
      have after := ih ((shared.use_becomes use).proper proper)
      rw [use_registry proper.sound, Registry.run, Registry.run, ← List.foldl_append,
        ← List.flatMap_cons] at after
      exact after

theorem run_accepted (proper : shared.cache.Proper) {patternType : Datum} {rule : Option Text}
    {validator : Option Validator} {requiresZeroTrust : Option Bool} {state : State}
    {registry : Registry}
    (accepted : shared.registry.register patternType rule validator requiresZeroTrust =
      .ok (state, registry)) (later : List Use) :
    ∃ compiled, ((shared.run later).cache.compile shared.registry.ignoreCase state.rule).1 =
      .ok compiled := by
  obtain ⟨_, _, _, _, _, _, _, ⟨compiled, compiles⟩, rfl, _⟩ := register_ok accepted
  have sound := ((shared.run_becomes later).proper proper).sound
  exact ⟨compiled, (sound.compile shared.registry.ignoreCase _).1.trans compiles⟩

end Shared

end Registry

/-- The store does not show. Whatever two pattern engines ask in turn, each reply is the one without
a store; every stored rule is the compilation of its own key, the keys differ, there are no more
than fit in, and each use since the last clearing is counted once. A registry that shares the store
accepts and scans as without one. Its scans fail only where a validator raises, because a rule that
it has accepted compiles for good, whatever the store was used for in between. -/
theorem cache_invisible :
    (∀ calls : List Pattern.Call,
      let cache := (Pattern.Cache.run {} calls).2
      (Pattern.Cache.run {} calls).1 = calls.map Pattern.Call.answer ∧
      cache.Sound ∧ cache.keys.Nodup ∧ cache.entries.length ≤ Pattern.Cache.capacity ∧
      cache.hits + cache.misses = Pattern.Cache.usesSinceClear calls ∧
      ∀ call fault, (cache.perform call).1 = .error fault →
        (cache.perform call).2.entries = cache.entries) ∧
    ∀ (ignoreCase zeroTrust : Bool) (limits : Limits) (uses : List Registry.Use),
      let start : Registry := { ignoreCase, zeroTrust, limits }
      let shared := Registry.Shared.run { registry := start } uses
      Pattern.Cache.Becomes {} shared.cache ∧
      shared.registry = start.run (uses.flatMap Registry.Use.changes) ∧
      (∀ canonical initialState,
        let result := (scanCached shared.cache ignoreCase canonical shared.registry.states
          initialState).1
        result = scan ignoreCase canonical shared.registry.states initialState ∧
        ∀ failure, result = .error failure → ∃ message, failure = .raised message) ∧
      ∀ patternType rule validator requiresZeroTrust,
        let result := (shared.registry.registerCached shared.cache patternType rule validator
          requiresZeroTrust).1
        result = shared.registry.register patternType rule validator requiresZeroTrust ∧
        ∀ state registry, result = .ok (state, registry) → ∀ later, ∃ compiled,
          ((shared.run later).cache.compile ignoreCase state.rule).1 = .ok compiled := by
  refine ⟨fun calls => ?_, fun ignoreCase zeroTrust limits uses => ?_⟩
  · intro cache
    obtain ⟨replies, proper⟩ := Pattern.Cache.empty_proper.run calls
    exact ⟨replies, proper.sound, proper.distinct, proper.bounded, Pattern.Cache.run_count calls,
      fun call fault failed => proper.sound.perform_error failed⟩
  · intro start shared
    have becomes : Pattern.Cache.Becomes {} shared.cache := Registry.Shared.run_becomes _ uses
    have proper := becomes.proper Pattern.Cache.empty_proper
    have registry : shared.registry = start.run (uses.flatMap Registry.Use.changes) :=
      Registry.Shared.run_registry Pattern.Cache.empty_proper uses
    have compiles := Registry.run_compiles ignoreCase zeroTrust limits
      (uses.flatMap Registry.Use.changes)
    have sameCase := (start.run_settings (uses.flatMap Registry.Use.changes)).1
    rw [← registry] at compiles sameCase
    refine ⟨becomes, registry, fun canonical initialState => ?_, ?_⟩
    · have same := (scanCached_spec proper.sound ignoreCase canonical shared.registry.states
        initialState).1
      exact ⟨same, fun failure failed => Scan.scan_error compiles (same.symm.trans failed)⟩
    · intro patternType rule validator requiresZeroTrust
      have same := Registry.registerCached_spec proper.sound shared.registry patternType rule
        validator requiresZeroTrust
      refine ⟨same, fun state after accepted later => ?_⟩
      have stays := Registry.Shared.run_accepted proper (same.symm.trans accepted) later
      rwa [sameCase] at stays

@[irreducible]
def mixedCalls : List Pattern.Call :=
  [.compile true "a+".toList, .matchPrefix false ['A'] "AA".toList, .clear,
    .matchAt true "a+".toList "xAa".toList 1, .compile false ['(']]

@[irreducible]
def mixedUses : List Registry.Use :=
  [.engine (.compile false ['(']),
    .registry (.register (.text "security_token".toList) (some "a+".toList)
      (some fun content => if content.length ≤ 2 then .ok true else .error "too long".toList) none),
    .registry (.register (.text "data_payload".toList) (some ['(']) none none), .engine .clear]

theorem cache_invisible_mixed :
    let cache := (Pattern.Cache.run {} mixedCalls).2
    let shared := Registry.Shared.run { registry := { ignoreCase := true } } mixedUses
    (cache.hits + cache.misses = 2 ∧ (cache.perform (.compile false ['('])).1.isOk = false ∧
      (cache.perform (.compile false ['('])).2.entries = cache.entries) ∧
    (∃ message, (scanCached shared.cache true { text := "xaaa".toList } shared.registry.states
      0).1 = .error (.raised message)) ∧
    ∃ state registry, (shared.registry.registerCached shared.cache (.text "data_payload".toList)
        (some "b?".toList) none none).1 = .ok (state, registry) ∧
      ∃ compiled, ((shared.run mixedUses).cache.compile true state.rule).1 = .ok compiled := by
  intro cache shared
  obtain ⟨onCalls, onUses⟩ := cache_invisible
  obtain ⟨_, _, scans, registers⟩ := onUses true true {} mixedUses
  refine ⟨?_, ?_, ?_⟩
  · obtain ⟨_, _, _, _, count, failing⟩ := onCalls mixedCalls
    have fails : (cache.perform (.compile false ['('])).1.isOk = false := by decide +kernel
    have uses : Pattern.Cache.usesSinceClear mixedCalls = 2 := by decide +kernel
    refine ⟨count.trans uses, fails, ?_⟩
    rcases replied : (cache.perform (.compile false ['('])).1 with fault | reply
    · exact failing _ fault replied
    · rw [replied] at fails
      contradiction
  · have raises : (scanCached shared.cache true { text := "xaaa".toList } shared.registry.states
        0).1.isOk = false := by
      decide +kernel
    rcases scanned : (scanCached shared.cache true { text := "xaaa".toList } shared.registry.states
      0).1 with failure | outcome
    · obtain ⟨message, rfl⟩ := (scans { text := "xaaa".toList } 0).2 failure scanned
      exact ⟨message, rfl⟩
    · rw [scanned] at raises
      contradiction
  · have accepts : (shared.registry.registerCached shared.cache (.text "data_payload".toList)
        (some "b?".toList) none none).1.isOk = true := by
      decide +kernel
    rcases registered : (shared.registry.registerCached shared.cache (.text "data_payload".toList)
      (some "b?".toList) none none).1 with fault | ⟨state, registry⟩
    · rw [registered] at accepts
      contradiction
    · have later := (registers (.text "data_payload".toList) (some "b?".toList) none none).2
      exact ⟨state, registry, rfl, later state registry registered mixedUses⟩

end ProtocolGate
