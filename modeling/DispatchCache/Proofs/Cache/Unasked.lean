import DispatchCache.Proofs.Cache.Handles

/-! # Calls that put no question to the host

Named arguments, no arguments at all, and too many of them decide what a cache does with a call, and
so does a bucket without room when a result is filed. What the arguments are does not matter then,
and nobody asks: all hosts make the same of the call, those that can read no argument included, the
world stays as it is and no slot is made. -/

namespace DispatchCache

variable {World Arg Val Ty R Err : Type}

/-- What the arguments of a call are does not matter to any cache. -/
def Capture.Decided (call : Capture Arg) : Prop :=
  call.hasNamed = true ∨ call.arity = 0 ∨ maxArity < call.arity

instance (call : Capture Arg) : Decidable call.Decided :=
  inferInstanceAs (Decidable (call.hasNamed = true ∨ call.arity = 0 ∨ maxArity < call.arity))

theorem Capture.Decided.shape_ne {call : Capture Arg} (decided : call.Decided) (arity : Nat) :
    call.shape maxArity ≠ .positional arity := by
  intro shape
  have accepted : (call.shape maxArity).isCacheable = true := by
    rw [shape]
    rfl
  obtain ⟨nameless, narrow⟩ := isCacheable_shape_iff.mp accepted
  obtain ⟨rfl, pos, -⟩ := arity_of_positional shape
  rcases decided with named | zero | wide
  · rw [nameless] at named
    cases named
  · omega
  · omega

/-- The arguments of any other call are read. -/
theorem Capture.shape_of_not_decided {call : Capture Arg} (undecided : ¬ call.Decided) :
    call.shape maxArity = .positional call.arity := by
  unfold Decided at undecided
  have pos : 0 < call.arity := by omega
  have narrow : call.arity ≤ maxArity := by omega
  exact shape_of_nameless (by simpa using fun named => undecided (.inl named)) pos narrow

namespace Cache

/-- What a cache answers for a call that is decided. -/
def foundUnread (cache : Cache Ty R) (call : Capture Arg) : Option R :=
  match call.shape maxArity with
  | .zeroArity => cache.zeroArity
  | .named | .tooWide _ | .positional _ => none

/-- What becomes of a result for a call that is decided or whose bucket is full. -/
def filedUnread (cache : Cache Ty R) (call : Capture Arg) (result : R) :
    InsertOutcome × Cache Ty R :=
  match call.shape maxArity with
  | .named => (.dropped .namedArguments, cache)
  | .tooWide _ => (.dropped .tooManyArguments, cache)
  | .zeroArity => (.zeroArity, cache.setZeroArity result)
  | .positional _ => (.dropped .bucketFull, cache)

end Cache

/-- A state that differs from an earlier one in caches and in what was reported at most. -/
structure Ambient.Untouched (start after : Ambient World Ty R) : Prop where
  world : after.world = start.world
  slots : after.slots = start.slots

variable [DecidableEq Ty]

/-- What caches do with a call that is decided, and with a result whose bucket is full, whichever
host they are used for: each answer and the state after it are there before the host is known. -/
structure Unasked (Val Err : Type) (call : Capture Arg) (result : R) (start : Ambient World Ty R) :
    Prop where
  lookup : call.Decided → ∀ (cache : Cache Ty R) (host : Host World Arg Val Ty R Err),
    (cache.lookup host call).eval start = (.ok (cache.foundUnread call), start)
  find : call.Decided → ∀ handle (host : Host World Arg Val Ty R Err),
    (DispatchCache.find host handle call).eval start =
      (.ok (handle.bind fun cache => cache.foundUnread call), start)
  findShared : call.Decided → ∀ place (host : Host World Arg Val Ty R Err),
    (SharedCache.find host place call).eval start =
      (.ok ((start.cacheAt place).foundUnread call), start)
  insert : ∀ cache : Cache Ty R, call.Decided ∨ maxPerArity ≤ cache.bucketLen call.arity →
    ∃ after, start.Untouched after ∧ after.shared = start.shared ∧
      ∀ host : Host World Arg Val Ty R Err,
        (cache.insert host call result).eval start = (.ok (cache.filedUnread call result), after)
  add : ∀ handle : Option (Cache Ty R),
    let held := handle.getD (Cache.empty default)
    call.Decided ∨ maxPerArity ≤ held.bucketLen call.arity →
    ∃ after, start.Untouched after ∧ after.shared = start.shared ∧
      ∀ host : Host World Arg Val Ty R Err,
        (DispatchCache.add host handle call result).eval start =
          (.ok (held.filedUnread call result).2, after)
  addShared : ∀ place,
    let held := start.cacheAt place
    call.Decided ∨ maxPerArity ≤ held.bucketLen call.arity →
    ∃ after, start.Untouched after ∧
      (∀ other, other ≠ place → after.sharedAt other = start.sharedAt other) ∧
      (place < start.shared.length → after.cacheAt place = (held.filedUnread call result).2) ∧
      ∀ host : Host World Arg Val Ty R Err,
        (SharedCache.add host place call result).eval start =
          (.ok (held.filedUnread call result).1, after)

section Unasked

variable (result : R) (start : Ambient World Ty R) {call : Capture Arg}

theorem Cache.eval_lookup_of_decided (cache : Cache Ty R) (host : Host World Arg Val Ty R Err)
    (decided : call.Decided) :
    (cache.lookup host call).eval start = (.ok (cache.foundUnread call), start) := by
  unfold lookup foundUnread
  cases shape : call.shape maxArity with
  | positional arity => exact absurd shape (decided.shape_ne arity)
  | _ => rfl

theorem SharedCache.eval_find_of_decided (place : Nat) (host : Host World Arg Val Ty R Err)
    (decided : call.Decided) :
    (SharedCache.find host place call).eval start =
      (.ok ((start.cacheAt place).foundUnread call), start) := by
  unfold SharedCache.find Cache.foundUnread
  cases shape : call.shape maxArity with
  | zeroArity =>
    rw [Ambient.cacheAt, ← SharedCache.zeroArity_eq]
    rfl
  | positional arity => exact absurd shape (decided.shape_ne arity)
  | _ => rfl

theorem Cache.exists_eval_insert_unread (cache : Cache Ty R)
    (unread : call.Decided ∨ maxPerArity ≤ cache.bucketLen call.arity) :
    ∃ after, start.Untouched after ∧ after.shared = start.shared ∧
      ∀ host : Host World Arg Val Ty R Err,
        (cache.insert host call result).eval start =
          (.ok (cache.filedUnread call result), after) := by
  unfold filedUnread
  cases shape : call.shape maxArity with
  | positional arity =>
    obtain ⟨rfl, -, -⟩ := Capture.arity_of_positional shape
    have full : cache.isFull call.arity = true :=
      (cache.isFull_iff _).mpr (unread.resolve_left fun decided => decided.shape_ne _ shape)
    exact ⟨start.note (.bucketFull call.arity), ⟨rfl, rfl⟩, rfl,
      fun host => cache.eval_insert_of_full host result start shape full⟩
  | _ =>
    refine ⟨start, ⟨rfl, rfl⟩, rfl, fun host => ?_⟩
    unfold insert
    rw [shape]
    rfl

theorem SharedCache.exists_eval_add_unread (place : Nat)
    (unread : call.Decided ∨ maxPerArity ≤ (start.cacheAt place).bucketLen call.arity) :
    ∃ after, start.Untouched after ∧
      (∀ other, other ≠ place → after.sharedAt other = start.sharedAt other) ∧
      (place < start.shared.length →
        after.cacheAt place = ((start.cacheAt place).filedUnread call result).2) ∧
      ∀ host : Host World Arg Val Ty R Err,
        (SharedCache.add host place call result).eval start =
          (.ok ((start.cacheAt place).filedUnread call result).1, after) := by
  unfold Cache.filedUnread
  cases shape : call.shape maxArity with
  | zeroArity =>
    -- The slot is accessed like a bucket, under the fingerprint without keys.
    refine ⟨(start.access place ⟨[]⟩ (.add call result)).2, ?_, ?_, ?_, fun host => ?_⟩
    · exact ⟨start.world_access place _ _, start.slots_access place _ _⟩
    · exact fun other apart => start.sharedAt_access_of_ne _ _ apart
    · intro here
      rw [start.cacheAt_access _ _ here]
      rfl
    · unfold SharedCache.add
      rw [shape]
      exact eval_commit place ⟨[]⟩ call result start
  | positional arity =>
    obtain ⟨rfl, -, -⟩ := Capture.arity_of_positional shape
    have full : (start.cacheAt place).isFull call.arity = true :=
      (Cache.isFull_iff _ _).mpr (unread.resolve_left fun decided => decided.shape_ne _ shape)
    have accepted : (call.shape maxArity).refusal? = none := by
      rw [shape]
      rfl
    exact ⟨start, ⟨rfl, rfl⟩, fun _ _ => rfl, fun _ => rfl,
      fun host => eval_add_of_full accepted full⟩
  | _ =>
    refine ⟨start, ⟨rfl, rfl⟩, fun _ _ => rfl, fun _ => rfl, fun host => ?_⟩
    unfold SharedCache.add
    rw [shape]
    rfl

theorem unasked : Unasked Val Err call result start := by
  constructor
  case lookup => exact fun decided cache host => cache.eval_lookup_of_decided start host decided
  case find =>
    intro decided handle host
    cases handle with
    | none => rfl
    | some cache => exact cache.eval_lookup_of_decided start host decided
  case findShared => exact fun decided place host =>
    SharedCache.eval_find_of_decided start place host decided
  case insert => exact fun cache unread => cache.exists_eval_insert_unread result start unread
  case add =>
    intro handle held unread
    apply (held.exists_eval_insert_unread result start unread).imp
    rintro after ⟨untouched, shared, inserted⟩
    exact ⟨untouched, shared, fun host => eval_add_of_insert (inserted host)⟩
  case addShared => exact fun place unread =>
    SharedCache.exists_eval_add_unread result start place unread

end Unasked

end DispatchCache
