import DispatchCache.Proofs.Cache.Handles
import DispatchCache.Proofs.Classification.Stopping
import DispatchCache.Proofs.SharedCache.Apart

/-! # Calls with an argument that cannot be read

Such a call fails with the cause of its first argument that cannot be read, in a cache, behind a
handle and in a shared cache alike. Adding fails in the same way, except that a full bucket drops
the result before any argument is read. No cache, no handle and no shared cache is changed by it. -/

namespace DispatchCache

variable {World Arg Val Ty R Err : Type}

variable [DecidableEq Ty]

/-- How each use of a cache ends for a call that cannot be read: `cause` is why, and `stop` is the
state that reading has left. With either answer, `insert` says what the cache is then, and `add` and
`addAbsent` say what the handle holds. -/
structure Stopped (host : Host World Arg Val Ty R Err) (call : Capture Arg) (result : R)
    (start : Ambient World Ty R) (cause : Err) (stop : Ambient World Ty R) : Prop where
  lookup : ∀ cache : Cache Ty R, (cache.lookup host call).eval start = (.error cause, stop)
  insert : ∀ cache : Cache Ty R, (cache.insert host call result).eval start =
    if cache.isFull call.arity then
      (.ok (.dropped .bucketFull, cache), start.note (.bucketFull call.arity))
    else (.error ⟨cause, cache⟩, stop)
  find : ∀ cache, (DispatchCache.find host (some cache) call).eval start = (.error cause, stop)
  add : ∀ cache, (DispatchCache.add host (some cache) call result).eval start =
    if cache.isFull call.arity then (.ok cache, start.note (.bucketFull call.arity))
    else (.error ⟨cause, some cache⟩, stop)
  addAbsent : (DispatchCache.add host none call result).eval start = (.error ⟨cause, none⟩, stop)
  findShared : ∀ place, (SharedCache.find host place call).eval start = (.error cause, stop)
  addShared : ∀ place, (SharedCache.add host place call result).eval start =
    if (start.sharedAt place).isFull call.arity then (.ok (.dropped .bucketFull), start)
    else (.error cause, stop)
  shared : ∀ place, host.Apart place → stop.sharedAt place = start.sharedAt place
  unallocated : ∀ place, host.Apart place → (start.sharedAt place).inner = none →
    (stop.sharedAt place).len = 0

section Stopping

variable {host : Host World Arg Val Ty R Err} {call : Capture Arg} {cause : Err}
variable {start stop : Ambient World Ty R}

section Unread

variable (result : R) (shape : call.shape maxArity = .positional call.arity)
variable (unread : (extract host call.positional).eval start = (.error cause, stop))

include shape unread

theorem Cache.eval_insert_of_stop (cache : Cache Ty R) :
    (cache.insert host call result).eval start =
      if cache.isFull call.arity then
        (.ok (.dropped .bucketFull, cache), start.note (.bucketFull call.arity))
      else (.error ⟨cause, cache⟩, stop) := by
  split_ifs with full
  · exact cache.eval_insert_of_full host result start shape full
  · exact Cache.eval_insert_of_unread result shape (by simpa using full) unread

/-- A handle without a cache has no full bucket, so it is never filled. -/
theorem eval_add_of_stop (handle : Option (Cache Ty R)) :
    (add host handle call result).eval start =
      if (handle.getD (Cache.empty default)).isFull call.arity then
        (.ok (handle.getD (Cache.empty default)), start.note (.bucketFull call.arity))
      else (.error ⟨cause, handle⟩, stop) := by
  have inserted := (handle.getD (Cache.empty default)).eval_insert_of_stop result shape unread
  split_ifs at inserted ⊢ with full
  · exact eval_add_of_insert inserted
  · have failed := eval_add_of_unfiled inserted
    have kept : (handle.map fun _ => handle.getD (Cache.empty default)) = handle :=
      left_of_add failed
    rw [failed, kept]

theorem SharedCache.eval_add_of_stop (place : Nat) :
    (SharedCache.add host place call result).eval start =
      if (start.sharedAt place).isFull call.arity then (.ok (.dropped .bucketFull), start)
      else (.error cause, stop) := by
  have accepted : (call.shape maxArity).refusal? = none := by
    rw [shape]
    rfl
  rw [SharedCache.isFull_eq]
  change _ = if (start.cacheAt place).isFull call.arity then _ else _
  split_ifs with full
  · exact SharedCache.eval_add_of_full accepted full
  · exact SharedCache.eval_add_of_unread accepted (by simpa using full) unread

theorem stopped : Stopped host call result start cause stop := by
  have shared : ∀ place, host.Apart place → stop.sharedAt place = start.sharedAt place := by
    intro place apart
    have kept := (apart.extract call.positional).sharedAt_eq start
    rwa [unread] at kept
  constructor
  case lookup => exact fun cache => cache.eval_lookup_of_unread shape unread
  case insert => exact fun cache => cache.eval_insert_of_stop result shape unread
  case find => exact fun cache => cache.eval_lookup_of_unread shape unread
  case add => exact fun cache => eval_add_of_stop result shape unread (some cache)
  case addAbsent =>
    rw [eval_add_of_stop result shape unread none, Option.getD_none, Cache.isFull_empty]
    rfl
  case findShared =>
    intro place
    apply SharedCache.eval_find_of_unread _ unread
    rw [shape]
    rfl
  case addShared => exact SharedCache.eval_add_of_stop result shape unread
  case shared => exact shared
  case unallocated =>
    intro place apart fresh
    rw [shared place apart, SharedCache.len, fresh]
    rfl

end Unread

/-- A nameless call that fits a bucket, with an argument that cannot be read: whatever the cache,
the handle or the shared cache holds, the first such argument is what the call fails for, and
nothing is changed. Adding fills the handle with what the insert into its cache makes of it, or into
an empty one if there was none, and leaves the handle as it was whenever it fails. -/
theorem stopped_of_stopsAt (nameless : call.hasNamed = false) (pos : 0 < call.arity)
    (narrow : call.arity ≤ maxArity) (stops : host.StopsAt start call.positional cause stop)
    (result : R) :
    Stopped host call result start cause stop ∧
      ∀ handle other result' ambient after,
        (∀ filed, (add host handle other result').eval ambient = (.ok filed, after) →
          ∃ outcome, ((handle.getD (Cache.empty default)).insert host other result').eval ambient =
            (.ok (outcome, filed), after)) ∧
        ∀ halted, (add host handle other result').eval ambient = (.error halted, after) →
          halted.left = handle := by
  have shape := Capture.shape_of_nameless nameless pos narrow
  have unread := Host.eval_extract_eq_error_iff.mpr stops
  exact ⟨stopped result shape unread, fun _ _ _ _ _ =>
    ⟨fun _ added => exists_insert_of_add added, fun _ failed => left_of_add failed⟩⟩

end Stopping

omit [DecidableEq Ty] in
/-- Reading a declared argument leaves all shared caches alone. -/
theorem Declared.apart_host (types : List Bool) (place : Nat) :
    (Declared.host types : Host Declared.World Declared.Arg Declared.Val Nat R _).Apart place := by
  intro arg
  change Run.Apart place (Declared.read arg)
  unfold Declared.read
  apply (Run.Apart.changeWorld fun world => arg.id :: world).bind
  intro _
  cases arg.held with
  | none => exact .throw _
  | some type => exact .pure _

/-- The second argument is the one that the call fails for, whatever it is used for. -/
theorem declared_stopped :
    let host : Host Declared.World Declared.Arg Declared.Val Nat String _ := Declared.host []
    let call : Capture Declared.Arg :=
      ⟨[{ id := 5, isInt := true }, { id := 7, own := some 0 }, { id := 8, own := some 0 }], []⟩
    let start : Ambient Declared.World Nat String :=
      { world := [], shared := [.empty .skipDuplicates] }
    let stop : Ambient Declared.World Nat String := { start with world := [7] }
    (add host none call "never").eval start = (.error ⟨⟨7⟩, none⟩, stop) ∧
      (SharedCache.add host 0 call "never").eval start = (.error ⟨7⟩, stop) ∧
      (stop.sharedAt 0).len = 0 := by
  intro host call start stop
  have stops : host.StopsAt start call.positional ⟨7⟩ stop := by
    have before : (extractKeys host [{ id := 5, isInt := true }]).eval start =
        (.ok [.nativeInt], start) := rfl
    exact .intro before rfl rfl
  obtain ⟨stopped, -⟩ := stopped_of_stopsAt rfl (by decide) (by decide) stops "never"
  exact ⟨stopped.addAbsent, stopped.addShared 0,
    stopped.unallocated 0 (Declared.apart_host [] 0) rfl⟩

end DispatchCache
