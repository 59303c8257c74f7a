import DispatchCache.Classify
import DispatchCache.Capture

/-! # Looking calls up and filing results

A call is looked up and its result filed by the fingerprint of its arguments. Where the
answer does not depend on the arguments, none of them is read. A handle is a cache that
may not be there yet. -/

namespace DispatchCache

variable {World Arg Val Ty R Err : Type} [DecidableEq Ty]

namespace Cache

/-- The cached result for a call. Calls with named arguments and calls that are too wide
are misses. -/
def lookup (cache : Cache Ty R) (host : Host World Arg Val Ty R Err) (call : Capture Arg) :
    Run World Ty R Err (Option R) :=
  match call.shape maxArity with
  | .named | .tooWide _ => return none
  | .zeroArity => return cache.zeroArity
  | .positional arity => do
    let hit := cache.get (← extract host call.positional)
    Run.report (.lookup arity hit.isSome)
    return hit

/-- Files a result under a fingerprint and reports a bucket that has no room for it. -/
def commit (cache : Cache Ty R) (fingerprint : Fingerprint Ty) (result : R) :
    Run World Ty R Err (InsertOutcome × Cache Ty R) := do
  let (outcome, cache) := cache.insertFingerprint fingerprint result
  if outcome = .dropped .bucketFull then
    Run.report (.bucketFull fingerprint.arity)
  return (outcome, cache)

/-- Files a result for a call. A full bucket is noticed before any argument is read. The cache
is there afterwards even if an argument cannot be read. -/
def insert (cache : Cache Ty R) (host : Host World Arg Val Ty R Err) (call : Capture Arg)
    (result : R) : Run World Ty R (Halted (Cache Ty R) Err) (InsertOutcome × Cache Ty R) :=
  match call.shape maxArity with
  | .named => return (.dropped .namedArguments, cache)
  | .tooWide _ => return (.dropped .tooManyArguments, cache)
  | .zeroArity => return (.zeroArity, cache.setZeroArity result)
  | .positional arity =>
    if cache.isFull arity then do
      Run.report (.bucketFull arity)
      return (.dropped .bucketFull, cache)
    else do
      cache.commit (← Run.holding cache (extract host call.positional)) result

end Cache

/-- Lookup on a handle. Without a cache every call is a miss, and no argument is read. -/
def find (host : Host World Arg Val Ty R Err) (handle : Option (Cache Ty R)) (call : Capture Arg) :
    Run World Ty R Err (Option R) :=
  match handle with
  | none => return none
  | some cache => cache.lookup host call

/-- Insert on a handle. The answer is the cache that the handle then has. If the insert fails, a
cache that was there stays, as the insert has left it, and a fresh one is not handed out. -/
def add (host : Host World Arg Val Ty R Err) (handle : Option (Cache Ty R)) (call : Capture Arg)
    (result : R) : Run World Ty R (Halted (Option (Cache Ty R)) Err) (Cache Ty R) :=
  match handle with
  | some existing => do
    let (_, existing) ← (existing.insert host call result).adapt (Halted.within some)
    return existing
  | none => do
    let (_, fresh) ← ((Cache.empty default).insert host call result).adapt
      (Halted.within fun _ => none)
    return fresh

end DispatchCache
