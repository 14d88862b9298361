import ProtocolGate.Pattern.Matching

/-!
A bounded store of compiled rules that all users of rules share. Latest use comes first, and the
rule whose use lies furthest back makes room. A rule that does not compile is never stored.
-/

namespace ProtocolGate.Pattern

structure CacheKey where
  rule : Text
  ignoreCase : Bool
deriving DecidableEq

/-- Stored rules, latest use first, and how often a rule was found and not found. -/
structure Cache where
  entries : List (CacheKey × Compiled) := []
  hits : Nat := 0
  misses : Nat := 0

namespace Cache

def capacity : Nat := 512

def compile (cache : Cache) (ignoreCase : Bool) (rule : Text) : Except Fault Compiled × Cache :=
  let key : CacheKey := { rule, ignoreCase }
  match cache.entries.lookup key with
  | some compiled =>
    let others := cache.entries.filter (·.1 != key)
    (.ok compiled, { cache with entries := (key, compiled) :: others, hits := cache.hits + 1 })
  | none =>
    match Pattern.compile ignoreCase rule with
    | .ok compiled =>
      (.ok compiled,
        { cache with
          entries := ((key, compiled) :: cache.entries).take capacity
          misses := cache.misses + 1 })
    | .error fault => (.error fault, { cache with misses := cache.misses + 1 })

def matchLength? (cache : Cache) (ignoreCase : Bool) (rule text : Text) :
    Except Fault (Option Nat) × Cache :=
  let (result, cache) := cache.compile ignoreCase rule
  (result.map (·.matchLength? text), cache)

def matchLengthAt? (cache : Cache) (ignoreCase : Bool) (rule text : Text) (position : Int) :
    Except Fault (Option Nat) × Cache :=
  cache.matchLength? ignoreCase rule (sliceFrom text position)

end Cache

end ProtocolGate.Pattern
