import DispatchCache.Cache.Handle
import DispatchCache.Metrics

/-! # Call sites

A call site asks its cache first, resolves the call in full on a miss, and files the
resolved result. Its cache is made when the first result is to be filed. -/

namespace DispatchCache

structure CallSite (Ty R : Type) where
  cache : Option (Cache Ty R)
  policy : InsertPolicy
  deriving DecidableEq

/-- A dispatch fails because an argument cannot be read or because the call cannot be
resolved. -/
inductive DispatchError (Err Fail : Type) where
  | decontainerize (cause : Err)
  | resolve (cause : Fail)
  deriving DecidableEq, Repr

def DispatchError.message {Err Fail : Type} : DispatchError Err Fail → String
  | .decontainerize _ => "failed to decontainerize argument"
  | .resolve _ => "dispatch resolution failed"

/-- Full resolution of a call. It is user code and may change the ambient state. -/
abbrev Resolver (World Arg Ty R Fail : Type) := Capture Arg → Run World Ty R Fail R

/-- The outcome of one dispatch: the answer, the site afterwards, and what was counted. -/
structure Dispatched (Ty R Err Fail : Type) where
  answer : Except (DispatchError Err Fail) R
  site : CallSite Ty R
  tally : Counters

namespace CallSite

variable {World Arg Val Ty R Err Fail : Type} [DecidableEq Ty]

def new (policy : InsertPolicy) : CallSite Ty R := ⟨none, policy⟩

omit [DecidableEq Ty] in
/-- The cache that a resolved result is filed in. -/
def opened (site : CallSite Ty R) : Cache Ty R := site.cache.getD (Cache.empty site.policy)

/-- Files a resolved result. The cache stays open even if an argument can no longer be
read. -/
def file (site : CallSite Ty R) (host : Host World Arg Val Ty R Err) (call : Capture Arg)
    (result : R) : StateM (Ambient World Ty R) (Dispatched Ty R Err Fail) := do
  match ← (site.opened.insert host call result).run with
  | .error ⟨cause, cache⟩ =>
    return ⟨.error (.decontainerize cause), { site with cache := some cache }, .miss⟩
  | .ok (outcome, cache) =>
    return ⟨.ok result, { site with cache := some cache }, .miss + .ofOutcome outcome⟩

def dispatch (site : CallSite Ty R) (host : Host World Arg Val Ty R Err)
    (resolve : Resolver World Arg Ty R Fail) (call : Capture Arg) :
    StateM (Ambient World Ty R) (Dispatched Ty R Err Fail) := do
  match ← (find host site.cache call).run with
  | .error cause => return ⟨.error (.decontainerize cause), site, {}⟩
  | .ok (some result) => return ⟨.ok result, site, .hit⟩
  | .ok none =>
    modify (Ambient.note (.resolving call.arity))
    match ← (resolve call).run with
    | .error cause => return ⟨.error (.resolve cause), site, .miss⟩
    | .ok result => site.file host call result

end CallSite

end DispatchCache
