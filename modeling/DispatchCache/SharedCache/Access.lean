import DispatchCache.Classify
import DispatchCache.Capture

/-! # Using a shared cache

Arguments are read between two looks at the shared cache, and reading may run code that
uses the same cache. So an insert decides by what it finds when it files its result. -/

namespace DispatchCache.SharedCache

variable {World Arg Val Ty R Err : Type} [DecidableEq Ty]

/-- Looks a call up in the shared cache at a place. -/
def find (host : Host World Arg Val Ty R Err) (place : Nat) (call : Capture Arg) :
    Run World Ty R Err (Option R) :=
  match call.shape maxArity with
  | .named | .tooWide _ => return none
  | .zeroArity => do return (← Run.sharedAt place).zeroArity
  | .positional _ => do
    let fingerprint ← extract host call.positional
    return (← Run.sharedAt place).get fingerprint

/-- Files a result in the shared cache at a place, by what is there now. -/
def commit (place : Nat) (fingerprint : Fingerprint Ty) (result : R) :
    Run World Ty R Err InsertOutcome := do
  let (outcome, shared) := (← Run.sharedAt place).insertFingerprint fingerprint result
  Run.setSharedAt place shared
  if outcome = .dropped .bucketFull then
    Run.report (.bucketFull fingerprint.arity)
  return outcome

/-- Files a result for a call. A bucket that is full already spares reading the arguments. -/
def add (host : Host World Arg Val Ty R Err) (place : Nat) (call : Capture Arg) (result : R) :
    Run World Ty R Err InsertOutcome :=
  match call.shape maxArity with
  | .named => return .dropped .namedArguments
  | .tooWide _ => return .dropped .tooManyArguments
  | .zeroArity => commit place ⟨[]⟩ result
  | .positional arity => do
    if (← Run.sharedAt place).isFull arity then
      return .dropped .bucketFull
    else
      commit place (← extract host call.positional) result

end DispatchCache.SharedCache
