import ProtocolGate.Engine
import ProtocolGate.Pattern.Cache

/-!
Registration, scans and processing as they run on the shared store of compiled rules. Every engine
in the same program takes its rules from that one store. A rule that is registered is left there for
the scans, and each time it is tried it comes from the store, which every trial changes.
-/

namespace ProtocolGate

def Registry.registerCached (registry : Registry) (cache : Pattern.Cache) (patternType : Datum)
    (rule : Option Text) (validator : Option Validator)
    (requiresZeroTrust : Option Bool := none) :
    Except Fault (State × Registry) × Pattern.Cache :=
  let rule := rule.getD []
  if rule.isEmpty then
    (.error (.ruleMissing patternType), cache)
  else if registry.limits.states ≤ registry.states.length then
    (.error (.statesFull registry.limits.states), cache)
  else if registry.limits.ruleLength < rule.length then
    (.error (.ruleTooLong registry.limits.ruleLength rule.length), cache)
  else
    match PatternType.ofDatum? patternType with
    | none => (.error (.patternTypeUnknown patternType), cache)
    | some known =>
      match cache.compile registry.ignoreCase rule with
      | (.error cause, cache) => (.error (.ruleInvalid rule cause), cache)
      | (.ok _, cache) =>
        let state : State :=
          { id := registry.states.length, patternType := known, rule
            accepting := known.isAccepting
            requiresZeroTrust := requiresZeroTrust.getD registry.zeroTrust
            validator }
        (.ok (state, { registry with states := registry.states ++ [state] }), cache)

namespace Scan

def firstMatchCached (ignoreCase : Bool) (text : Text) :
    List State → Pattern.Cache → Except Failure (Option (State × Nat)) × Pattern.Cache
  | [], cache => (.ok none, cache)
  | state :: others, cache =>
    match cache.matchLength? ignoreCase state.rule text with
    | (.error cause, cache) => (.error (.fault (.ruleInvalid state.rule cause)), cache)
    | (.ok none, cache) | (.ok (some 0), cache) => firstMatchCached ignoreCase text others cache
    | (.ok (some length), cache) =>
      match verdict state (text.take length) with
      | .error failure => (.error failure, cache)
      | .ok true => (.ok (some (state, length)), cache)
      | .ok false => firstMatchCached ignoreCase text others cache

def segmentsCached (ignoreCase : Bool) (states : List State) :
    Nat → Text → Pattern.Cache → Except Failure (List Segment) × Pattern.Cache
  | 0, _, cache => (.ok [], cache)
  | _ + 1, [], cache => (.ok [], cache)
  | fuel + 1, c :: rest, cache =>
    match firstMatchCached ignoreCase (c :: rest) states cache with
    | (.error failure, cache) => (.error failure, cache)
    | (.ok none, cache) =>
      let (later, cache) := segmentsCached ignoreCase states fuel rest cache
      (later.map (.skipped c :: ·), cache)
    | (.ok (some (state, length)), cache) =>
      let (later, cache) :=
        segmentsCached ignoreCase states fuel ((c :: rest).drop length) cache
      (later.map (.matched state ((c :: rest).take length) :: ·), cache)

end Scan

def scanCached (cache : Pattern.Cache) (ignoreCase : Bool) (canonical : Canonical.Form)
    (states : List State) (initialState : Int) : Except Failure ScanOutcome × Pattern.Cache :=
  let (segments, cache) :=
    Scan.segmentsCached ignoreCase states canonical.text.length canonical.text cache
  (segments.map (ScanOutcome.ofSegments canonical states initialState), cache)

namespace Engine

def scanFormCached (engine : Engine) (cache : Pattern.Cache) (form : Canonical.Form) :
    Except Failure ScanOutcome × Engine × Pattern.Cache :=
  match scanCached cache engine.registry.ignoreCase form engine.registry.states initialState with
  | (.error failure, cache) => (.error failure, engine, cache)
  | (.ok outcome, cache) =>
    match Governance.charge engine.accumulated (.float outcome.cost) with
    | .error failure => (.error failure, engine, cache)
    | .ok accumulated =>
      (.ok outcome, { engine with accumulated, currentState := outcome.finalState }, cache)

def processCached (engine : Engine) (cache : Pattern.Cache) (data : Datum) :
    Except Failure ScanOutcome × Engine × Pattern.Cache :=
  if engine.initialized then
    match Canonical.inputText data with
    | .error fault => (.error (.fault fault), engine, cache)
    | .ok [] => (.error (.fault .inputEmpty), engine, cache)
    | .ok (_ :: _) =>
      match engine.context.normalize data with
      | (.error fault, context) => (.error (.fault fault), { engine with context }, cache)
      | (.ok form, context) =>
        if form.truncated && engine.config.rejectTruncated then
          (.error (.fault (.inputTruncated form.length)), { engine with context }, cache)
        else
          ({ engine with context } : Engine).scanFormCached cache form
  else
    (.error (.fault .notInitialized), engine, cache)

end Engine

end ProtocolGate
