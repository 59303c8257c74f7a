import DispatchCache.Proofs.CallSite.Filing
import DispatchCache.Proofs.CallSite.History

/-! # How a dispatch ends

A dispatch ends in one of five ways. What it counts is told by its ending alone: a hit, or a miss
and what became of the resolved result. So each miss is accounted for, and what is counted as
inserted is what the site's cache has grown by. -/

namespace DispatchCache

namespace Counters

variable (a b : Counters)

@[simp] theorem hits_add : (a + b).hits = a.hits + b.hits := rfl

@[simp] theorem misses_add : (a + b).misses = a.misses + b.misses := rfl

@[simp] theorem inserts_add : (a + b).inserts = a.inserts + b.inserts := rfl

@[simp] theorem dropped_add : (a + b).dropped = a.dropped + b.dropped := rfl

@[simp] theorem uncacheable_add : (a + b).uncacheable = a.uncacheable + b.uncacheable := rfl

end Counters

namespace Cache

variable {World Arg Val Ty R Err : Type} [DecidableEq Ty]
variable {host : Host World Arg Val Ty R Err} {call : Capture Arg} {result : R}
variable {ambient after : Ambient World Ty R} {cache filed : Cache Ty R} {outcome : InsertOutcome}

/-- What the insert of a call counts as uncacheable is told by the shape of the call. -/
theorem uncacheable_ofOutcome
    (done : (cache.insert host call result).eval ambient = (.ok (outcome, filed), after)) :
    (Counters.ofOutcome outcome).uncacheable =
      if (call.shape maxArity).isCacheable then 0 else 1 := by
  cases shape : call.shape maxArity with
  | named =>
    simp only [insert, shape, Run.eval_pure] at done
    cases done
    rfl
  | tooWide arity =>
    simp only [insert, shape, Run.eval_pure] at done
    cases done
    rfl
  | zeroArity =>
    rw [eval_insert_of_zeroArity cache host result ambient shape] at done
    cases done
    rfl
  | positional arity =>
    have way := cache.callInsert host call result ambient
    rw [done] at way
    cases way with
    | uncacheable refused => simp [shape, CallShape.isCacheable] at refused
    | zeroArity zero => rfl
    | full shape full => rfl
    | @read _ print _ _ shape room read inserted =>
      have narrow := (Capture.arity_of_positional shape).2.2
      have filing := cache.insertion print result
      rw [inserted] at filing
      cases filing with
      | wide wide =>
        rw [arity_of_extract_positional shape read] at wide
        omega
      | _ => rfl

/-- What the insert of a call counts as inserted is what the cache grows by, as long as a call
without arguments finds the slot empty. -/
theorem len_of_insert
    (done : (cache.insert host call result).eval ambient = (.ok (outcome, filed), after))
    (vacant : call.shape maxArity = .zeroArity → cache.zeroArity = none) :
    filed.len = cache.len + (Counters.ofOutcome outcome).inserts := by
  have way := cache.callInsert host call result ambient
  rw [done] at way
  cases way with
  | @uncacheable reason shape => cases reason <;> rfl
  | zeroArity shape =>
    have grown := cache.len_insertFingerprint ⟨[]⟩ result
    simpa [insertFingerprint, Fingerprint.arity, vacant shape, Counters.ofOutcome] using grown
  | full shape full => rfl
  | @read arity print _ _ shape room read inserted =>
    have grown := cache.len_insertFingerprint print result
    have filled : outcome ≠ .zeroArity :=
      CallSite.outcome_ne_zeroArity shape (.read shape room read inserted)
    rw [inserted] at grown
    rw [grown]
    cases outcome with
    | zeroArity => exact absurd rfl filled
    | stored => rfl
    | duplicate => rfl
    | dropped reason => cases reason <;> rfl

end Cache

namespace CallSite

/-- How far a dispatch came. -/
inductive Ending where
  /-- An argument could not be read for the lookup. -/
  | unread
  | hit
  | unresolved
  /-- An argument could not be read for the insert. -/
  | unfiled
  | filed (outcome : InsertOutcome)
  deriving DecidableEq, Repr

namespace Ending

/-- Whether the resolver was asked. -/
def asks : Ending → Bool
  | .unread | .hit => false
  | .unresolved | .unfiled | .filed _ => true

/-- Whether the dispatch failed after the resolver was asked. -/
def failsLate : Ending → Bool
  | .unresolved | .unfiled => true
  | .unread | .hit | .filed _ => false

def tally : Ending → Counters
  | .unread => {}
  | .hit => .hit
  | .unresolved | .unfiled => .miss
  | .filed outcome => .miss + .ofOutcome outcome

/-- A miss ends in a result that is inserted, dropped, uncacheable or a duplicate, or in a
failure. -/
theorem misses_tally (ending : Ending) :
    ending.tally.misses = ending.tally.inserts + ending.tally.dropped + ending.tally.uncacheable +
      (if ending = .filed .duplicate then 1 else 0) + (if ending.failsLate then 1 else 0) := by
  cases ending with
  | filed outcome =>
    cases outcome with
    | dropped reason => cases reason <;> rfl
    | _ => rfl
  | _ => rfl

theorem hits_tally (ending : Ending) :
    ending.tally.hits = if ending = .hit then 1 else 0 := by
  cases ending with
  | filed outcome =>
    cases outcome with
    | dropped reason => cases reason <;> rfl
    | _ => rfl
  | _ => rfl

theorem misses_tally_eq_asks (ending : Ending) :
    ending.tally.misses = if ending.asks then 1 else 0 := by
  cases ending with
  | filed outcome =>
    cases outcome with
    | dropped reason => cases reason <;> rfl
    | _ => rfl
  | _ => rfl

end Ending

variable {World Arg Val Ty R Err Fail : Type} [DecidableEq Ty]

omit [DecidableEq Ty] in
/-- The results that a site has at hand. -/
def entries (site : CallSite Ty R) : Nat := site.cache.elim 0 Cache.len

omit [DecidableEq Ty] in
theorem len_opened (site : CallSite Ty R) : site.opened.len = site.entries := by
  rcases site with ⟨_ | cache, policy⟩
  · rw [opened, entries, Cache.len_eq]
    rfl
  · rfl

namespace Moment

variable (moment : Moment World Arg Val Ty R Err Fail)

/-- The ending of a dispatch, by what its steps answer. -/
def ending : Ending :=
  match moment.looked.1 with
  | .error _ => .unread
  | .ok (some _) => .hit
  | .ok none =>
    match moment.resolved with
    | (.error _, _) => .unresolved
    | (.ok result, mid) =>
      match (moment.site.filing moment.host moment.call result mid).1 with
      | .error _ => .unfiled
      | .ok (outcome, _) => .filed outcome

variable {moment}

theorem ending_of_unread {cause : Err} {after : Ambient World Ty R}
    (looked : moment.looked = (.error cause, after)) : moment.ending = .unread := by
  simp only [ending, looked]

theorem ending_of_hit {result : R} {after : Ambient World Ty R}
    (looked : moment.looked = (.ok (some result), after)) : moment.ending = .hit := by
  simp only [ending, looked]

section Asked

variable {seen mid after : Ambient World Ty R} {result : R}
variable (looked : moment.looked = (.ok none, seen))

include looked

theorem ending_of_unresolved {cause : Fail}
    (resolved : resolving moment.resolve moment.call seen = (.error cause, after)) :
    moment.ending = .unresolved := by
  simp only [ending, looked, resolved_of_looking looked, resolved]

theorem ending_of_unfiled {halted : Halted (Cache Ty R) Err}
    (resolved : resolving moment.resolve moment.call seen = (.ok result, mid))
    (filed : moment.site.filing moment.host moment.call result mid = (.error halted, after)) :
    moment.ending = .unfiled := by
  simp only [ending, looked, resolved_of_looking looked, resolved, filed]

theorem ending_of_filed {outcome : InsertOutcome} {cache : Cache Ty R}
    (resolved : resolving moment.resolve moment.call seen = (.ok result, mid))
    (filed : moment.site.filing moment.host moment.call result mid =
      (.ok (outcome, cache), after)) :
    moment.ending = .filed outcome := by
  simp only [ending, looked, resolved_of_looking looked, resolved, filed]

/-- A call without arguments is only missed while the slot for it is empty. -/
theorem vacant_of_looked (shape : moment.call.shape maxArity = .zeroArity) :
    moment.site.opened.zeroArity = none := by
  rcases callLookup_of_looking looked with ⟨absent, -, -⟩ | ⟨cache, present, way⟩
  · rw [opened, absent]
    rfl
  · rw [opened_of_present present]
    generalize missed : (none : Option R) = answer at way
    cases way with
    | uncacheable refused => simp [shape, CallShape.isCacheable] at refused
    | zeroArity shape slot => exact slot
    | read positional => simp [shape] at positional

end Asked

/-- The resolver is asked exactly where the lookup finds nothing. -/
theorem asks_iff : moment.ending.asks = true ↔ moment.looked.1 = .ok none := by
  have follows := moment.course
  generalize moment.dispatched = done at follows
  cases follows with
  | unread looked => simp [ending_of_unread looked, Ending.asks, Moment.looked, looked]
  | hit looked => simp [ending_of_hit looked, Ending.asks, Moment.looked, looked]
  | unresolved looked resolved =>
    simp [ending_of_unresolved looked resolved, Ending.asks, Moment.looked, looked]
  | unfiled looked resolved filed =>
    simp [ending_of_unfiled looked resolved filed, Ending.asks, Moment.looked, looked]
  | filed looked resolved filed =>
    simp [ending_of_filed looked resolved filed, Ending.asks, Moment.looked, looked]

variable (moment)

/-- A dispatch counts what its ending says. -/
theorem tally_dispatched : moment.dispatched.1.tally = moment.ending.tally := by
  have follows := moment.course
  generalize moment.dispatched = done at follows ⊢
  cases follows with
  | unread looked => rw [ending_of_unread looked, Ending.tally]
  | hit looked => rw [ending_of_hit looked, Ending.tally]
  | unresolved looked resolved => rw [ending_of_unresolved looked resolved, Ending.tally]
  | unfiled looked resolved filed => rw [ending_of_unfiled looked resolved filed, Ending.tally]
  | filed looked resolved filed => rw [ending_of_filed looked resolved filed, Ending.tally]

/-- What a dispatch counts as inserted is what its site has more of afterwards. -/
theorem entries_dispatched :
    moment.dispatched.1.site.entries = moment.site.entries + moment.ending.tally.inserts := by
  have follows := moment.course
  generalize moment.dispatched = done at follows ⊢
  cases follows with
  | unread looked =>
    rw [ending_of_unread looked]
    rfl
  | hit looked =>
    rw [ending_of_hit looked]
    rfl
  | unresolved looked resolved =>
    rw [ending_of_unresolved looked resolved]
    rfl
  | unfiled looked resolved filed =>
    rw [ending_of_unfiled looked resolved filed]
    exact moment.site.len_opened
  | @filed seen result mid outcome cache after looked resolved filed =>
    have grown := Cache.len_of_insert filed (vacant_of_looked looked)
    show cache.len = _
    rw [grown, len_opened, ending_of_filed looked resolved filed, Ending.tally,
      Counters.inserts_add, Counters.miss, Nat.zero_add]

/-- Uncacheable are the calls that have named arguments or are too wide, once they are
resolved. -/
theorem uncacheable_tally : moment.ending.tally.uncacheable =
    if !(moment.call.shape maxArity).isCacheable && moment.resolved.1.isOk then 1 else 0 := by
  have follows := moment.course
  generalize moment.dispatched = done at follows
  cases shape : (moment.call.shape maxArity).isCacheable with
  | true =>
    cases follows with
    | unread looked =>
      rw [ending_of_unread looked]
      rfl
    | hit looked =>
      rw [ending_of_hit looked]
      rfl
    | unresolved looked resolved =>
      rw [ending_of_unresolved looked resolved]
      rfl
    | unfiled looked resolved filed =>
      rw [ending_of_unfiled looked resolved filed]
      rfl
    | filed looked resolved filed =>
      rw [ending_of_filed looked resolved filed, Ending.tally, Counters.uncacheable_add,
        Cache.uncacheable_ofOutcome filed, shape]
      rfl
  | false =>
    have kept := moment.site.looking_of_uncacheable moment.host moment.ambient shape
    cases follows with
    | unread looked => cases kept.symm.trans looked
    | hit looked => cases kept.symm.trans looked
    | unresolved looked resolved =>
      rw [ending_of_unresolved looked resolved, resolved_of_looking looked, resolved]
      rfl
    | unfiled looked resolved filed =>
      obtain ⟨reason, inserted⟩ :=
        moment.site.opened.eval_insert_of_uncacheable moment.host _ _ shape
      cases inserted.symm.trans filed
    | filed looked resolved filed =>
      rw [ending_of_filed looked resolved filed, Ending.tally, Counters.uncacheable_add,
        Cache.uncacheable_ofOutcome filed, shape, resolved_of_looking looked, resolved]
      rfl

end Moment

end CallSite

end DispatchCache
