import DispatchCache.Proofs.Cache.Calls
import DispatchCache.CallSite

/-! # The course of one dispatch

A dispatch ends in one of five ways: an argument could not be read for the lookup, the cache
had the answer, the call could not be resolved, an argument could not be read for the insert,
or the resolved result was filed. Each way says what the steps before it answered. -/

namespace DispatchCache.CallSite

variable {World Arg Val Ty R Err Fail : Type} [DecidableEq Ty]

section Course

variable (site : CallSite Ty R) (host : Host World Arg Val Ty R Err)
variable (resolve : Resolver World Arg Ty R Fail) (call : Capture Arg)

/-- The lookup that a dispatch begins with. -/
def looking (ambient : Ambient World Ty R) : Except Err (Option R) × Ambient World Ty R :=
  (find host site.cache call).eval ambient

omit [DecidableEq Ty] in
/-- The resolution that follows a lookup without an answer. -/
def resolving (resolve : Resolver World Arg Ty R Fail) (call : Capture Arg)
    (ambient : Ambient World Ty R) : Except Fail R × Ambient World Ty R :=
  (resolve call).eval (ambient.note (.resolving call.arity))

/-- The insert that follows a resolution. -/
def filing (result : R) (ambient : Ambient World Ty R) :
    Except (Halted (Cache Ty R) Err) (InsertOutcome × Cache Ty R) × Ambient World Ty R :=
  (site.opened.insert host call result).eval ambient

/-- The ways a dispatch can go from `ambient` on. -/
inductive Course (ambient : Ambient World Ty R) :
    Dispatched Ty R Err Fail × Ambient World Ty R → Prop where
  | unread {cause after} (looked : site.looking host call ambient = (.error cause, after)) :
      Course ambient (⟨.error (.decontainerize cause), site, {}⟩, after)
  | hit {result after} (looked : site.looking host call ambient = (.ok (some result), after)) :
      Course ambient (⟨.ok result, site, .hit⟩, after)
  | unresolved {seen cause after} (looked : site.looking host call ambient = (.ok none, seen))
      (resolved : resolving resolve call seen = (.error cause, after)) :
      Course ambient (⟨.error (.resolve cause), site, .miss⟩, after)
  | unfiled {seen result mid cause after}
      (looked : site.looking host call ambient = (.ok none, seen))
      (resolved : resolving resolve call seen = (.ok result, mid))
      (filed : site.filing host call result mid = (.error ⟨cause, site.opened⟩, after)) :
      Course ambient
        (⟨.error (.decontainerize cause), { site with cache := some site.opened }, .miss⟩, after)
  | filed {seen result mid outcome cache after}
      (looked : site.looking host call ambient = (.ok none, seen))
      (resolved : resolving resolve call seen = (.ok result, mid))
      (filed : site.filing host call result mid = (.ok (outcome, cache), after)) :
      Course ambient
        (⟨.ok result, { site with cache := some cache }, .miss + .ofOutcome outcome⟩, after)

variable {site host resolve call} {ambient seen mid after : Ambient World Ty R}

/-- Without a cache nothing is looked at; with one the call is looked up there. -/
theorem callLookup_of_looking {answer : Except Err (Option R)}
    (looked : site.looking host call ambient = (answer, after)) :
    (site.cache = none ∧ answer = .ok none ∧ after = ambient) ∨
      ∃ cache, site.cache = some cache ∧ cache.CallLookup host call ambient (answer, after) := by
  rcases site with ⟨_ | cache, policy⟩
  · cases looked
    exact .inl ⟨rfl, rfl, rfl⟩
  · have way := cache.callLookup host call ambient
    rw [show (cache.lookup host call).eval ambient = (answer, after) from looked] at way
    exact .inr ⟨cache, rfl, way⟩

theorem callInsert_of_filing {result : R}
    {done : Except (Halted (Cache Ty R) Err) (InsertOutcome × Cache Ty R) × Ambient World Ty R}
    (filed : site.filing host call result mid = done) :
    site.opened.CallInsert host call result mid done := by
  rw [← filed]
  exact site.opened.callInsert host call result mid

omit [DecidableEq Ty] in
theorem opened_of_present {cache : Cache Ty R} (present : site.cache = some cache) :
    site.opened = cache := by
  rw [opened, present, Option.getD_some]

/-- The arguments of a call that cannot be cached are not read, and it is never answered. -/
theorem looking_of_uncacheable (site : CallSite Ty R) (host : Host World Arg Val Ty R Err)
    (ambient : Ambient World Ty R) (shape : (call.shape maxArity).isCacheable = false) :
    site.looking host call ambient = (.ok none, ambient) := by
  rcases site with ⟨_ | cache, policy⟩
  · rfl
  · exact cache.eval_lookup_of_uncacheable host ambient shape

/-- Without arguments, what is looked up is the slot of the cache that results are filed in. -/
theorem looking_of_zeroArity (site : CallSite Ty R) (host : Host World Arg Val Ty R Err)
    (ambient : Ambient World Ty R) (shape : call.shape maxArity = .zeroArity) :
    site.looking host call ambient = (.ok site.opened.zeroArity, ambient) := by
  rcases site with ⟨_ | cache, policy⟩
  · rfl
  · exact cache.eval_lookup_of_zeroArity host ambient shape

/-- Where the arguments can be read, what is looked up is their fingerprint in that cache. -/
theorem exists_looking_of_read {arity : Nat} {print : Fingerprint Ty} (site : CallSite Ty R)
    (shape : call.shape maxArity = .positional arity)
    (read : (extract host call.positional).eval ambient = (.ok print, after)) :
    ∃ seen, site.looking host call ambient = (.ok (site.opened.get print), seen) := by
  rcases site with ⟨_ | cache, policy⟩
  · rw [show (⟨none, policy⟩ : CallSite Ty R).opened = Cache.empty policy from rfl, Cache.get_empty]
    exact ⟨ambient, rfl⟩
  · exact ⟨_, cache.eval_lookup_of_read shape read⟩

theorem dispatch_of_unread {cause : Err}
    (looked : site.looking host call ambient = (.error cause, after)) :
    (site.dispatch host resolve call).run ambient =
      (⟨.error (.decontainerize cause), site, {}⟩, after) := by
  unfold dispatch
  exact Run.state_bind _ looked

theorem dispatch_of_hit {result : R}
    (looked : site.looking host call ambient = (.ok (some result), after)) :
    (site.dispatch host resolve call).run ambient = (⟨.ok result, site, .hit⟩, after) := by
  unfold dispatch
  exact Run.state_bind _ looked

theorem dispatch_of_unresolved {cause : Fail}
    (looked : site.looking host call ambient = (.ok none, seen))
    (resolved : resolving resolve call seen = (.error cause, after)) :
    (site.dispatch host resolve call).run ambient =
      (⟨.error (.resolve cause), site, .miss⟩, after) := by
  unfold dispatch
  refine (Run.state_bind _ looked).trans ?_
  refine (Run.state_bind _ (Run.state_modify _ seen)).trans ?_
  exact Run.state_bind _ resolved

theorem dispatch_of_resolved {result : R}
    (looked : site.looking host call ambient = (.ok none, seen))
    (resolved : resolving resolve call seen = (.ok result, mid)) :
    (site.dispatch host resolve call).run ambient = (site.file host call result).run mid := by
  unfold dispatch
  refine (Run.state_bind _ looked).trans ?_
  refine (Run.state_bind _ (Run.state_modify _ seen)).trans ?_
  exact Run.state_bind _ resolved

/-- What a failing insert has left is the cache of the site from then on. -/
theorem file_of_unfiled {result : R} {cause : Err} {left : Cache Ty R}
    (filed : site.filing host call result mid = (.error ⟨cause, left⟩, after)) :
    (site.file host call result : StateM _ (Dispatched Ty R Err Fail)).run mid =
      (⟨.error (.decontainerize cause), { site with cache := some left }, .miss⟩, after) := by
  unfold file
  exact Run.state_bind _ filed

theorem file_of_filed {result : R} {outcome : InsertOutcome} {cache : Cache Ty R}
    (filed : site.filing host call result mid = (.ok (outcome, cache), after)) :
    (site.file host call result : StateM _ (Dispatched Ty R Err Fail)).run mid =
      (⟨.ok result, { site with cache := some cache }, .miss + .ofOutcome outcome⟩, after) := by
  unfold file
  exact Run.state_bind _ filed

/-- Every dispatch follows one of the ways. -/
theorem course (site : CallSite Ty R) (host : Host World Arg Val Ty R Err)
    (resolve : Resolver World Arg Ty R Fail) (call : Capture Arg) (ambient : Ambient World Ty R) :
    Course site host resolve call ambient ((site.dispatch host resolve call).run ambient) := by
  rcases looked : site.looking host call ambient with ⟨cause | _ | result, seen⟩
  · rw [dispatch_of_unread looked]
    exact .unread looked
  · rcases resolved : resolving resolve call seen with ⟨cause | result, mid⟩
    · rw [dispatch_of_unresolved looked resolved]
      exact .unresolved looked resolved
    · rw [dispatch_of_resolved looked resolved]
      rcases filed : site.filing host call result mid with ⟨⟨cause, left⟩ | ⟨outcome, cache⟩, after⟩
      · obtain rfl : left = site.opened := Cache.left_of_insert filed
        rw [file_of_unfiled filed]
        exact .unfiled looked resolved filed
      · rw [file_of_filed filed]
        exact .filed looked resolved filed
  · rw [dispatch_of_hit looked]
    exact .hit looked

end Course

end DispatchCache.CallSite
