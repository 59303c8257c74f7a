import DispatchCache.Proofs.Cache.Insertion
import DispatchCache.Proofs.Extraction

/-! # Calls on a cache

Looking a call up and filing its result come down to one extraction of the arguments, or to
none, followed by an operation on the cache alone. -/

namespace DispatchCache.Cache

variable {World Arg Val Ty R Err : Type} [DecidableEq Ty]
variable {host : Host World Arg Val Ty R Err} {ambient after : Ambient World Ty R}
variable {cache : Cache Ty R} {call : Capture Arg} {arity : Nat} {result : R}

theorem eval_lookup_of_uncacheable (cache : Cache Ty R) (host : Host World Arg Val Ty R Err)
    (ambient : Ambient World Ty R) (shape : (call.shape maxArity).isCacheable = false) :
    (cache.lookup host call).eval ambient = (.ok none, ambient) := by
  unfold lookup
  cases form : call.shape maxArity with
  | named => rfl
  | tooWide arity => rfl
  | zeroArity => simp [form, CallShape.isCacheable] at shape
  | positional arity => simp [form, CallShape.isCacheable] at shape

theorem eval_lookup_of_zeroArity (cache : Cache Ty R) (host : Host World Arg Val Ty R Err)
    (ambient : Ambient World Ty R) (shape : call.shape maxArity = .zeroArity) :
    (cache.lookup host call).eval ambient = (.ok cache.zeroArity, ambient) := by
  unfold lookup
  rw [shape]
  rfl

theorem eval_lookup_of_read {print : Fingerprint Ty} (cache : Cache Ty R)
    (shape : call.shape maxArity = .positional arity)
    (read : (extract host call.positional).eval ambient = (.ok print, after)) :
    (cache.lookup host call).eval ambient =
      (.ok (cache.get print), after.note (.lookup arity (cache.get print).isSome)) := by
  unfold lookup
  rw [shape]
  exact Run.eval_bind_ok _ read

theorem eval_lookup_of_unread {cause : Err} (cache : Cache Ty R)
    (shape : call.shape maxArity = .positional arity)
    (read : (extract host call.positional).eval ambient = (.error cause, after)) :
    (cache.lookup host call).eval ambient = (.error cause, after) := by
  unfold lookup
  rw [shape]
  exact Run.eval_bind_error _ read

/-- The ways the lookup of a call can go. -/
inductive CallLookup (cache : Cache Ty R) (host : Host World Arg Val Ty R Err)
    (call : Capture Arg) (ambient : Ambient World Ty R) :
    Except Err (Option R) × Ambient World Ty R → Prop where
  | uncacheable (shape : (call.shape maxArity).isCacheable = false) :
      CallLookup cache host call ambient (.ok none, ambient)
  | zeroArity {answer} (shape : call.shape maxArity = .zeroArity)
      (slot : cache.zeroArity = answer) :
      CallLookup cache host call ambient (.ok answer, ambient)
  | unread {arity cause after} (shape : call.shape maxArity = .positional arity)
      (read : (extract host call.positional).eval ambient = (.error cause, after)) :
      CallLookup cache host call ambient (.error cause, after)
  | read {arity print answer after} (shape : call.shape maxArity = .positional arity)
      (read : (extract host call.positional).eval ambient = (.ok print, after))
      (got : cache.get print = answer) :
      CallLookup cache host call ambient (.ok answer, after.note (.lookup arity answer.isSome))

theorem callLookup (cache : Cache Ty R) (host : Host World Arg Val Ty R Err)
    (call : Capture Arg) (ambient : Ambient World Ty R) :
    CallLookup cache host call ambient ((cache.lookup host call).eval ambient) := by
  rcases Capture.shape_cases call with shape | shape | ⟨arity, shape⟩
  · rw [eval_lookup_of_uncacheable cache host ambient shape]
    exact .uncacheable shape
  · rw [eval_lookup_of_zeroArity cache host ambient shape]
    exact .zeroArity shape rfl
  · rcases read : (extract host call.positional).eval ambient with ⟨cause | print, after⟩
    · rw [eval_lookup_of_unread cache shape read]
      exact .unread shape read
    · rw [eval_lookup_of_read cache shape read]
      exact .read shape read rfl

theorem eval_insert_of_uncacheable (cache : Cache Ty R) (host : Host World Arg Val Ty R Err)
    (result : R) (ambient : Ambient World Ty R)
    (shape : (call.shape maxArity).isCacheable = false) :
    ∃ reason, (cache.insert host call result).eval ambient =
      (.ok (.dropped reason, cache), ambient) := by
  unfold insert
  cases form : call.shape maxArity with
  | named => exact ⟨.namedArguments, rfl⟩
  | tooWide arity => exact ⟨.tooManyArguments, rfl⟩
  | zeroArity => simp [form, CallShape.isCacheable] at shape
  | positional arity => simp [form, CallShape.isCacheable] at shape

theorem eval_insert_of_zeroArity (cache : Cache Ty R) (host : Host World Arg Val Ty R Err)
    (result : R) (ambient : Ambient World Ty R) (shape : call.shape maxArity = .zeroArity) :
    (cache.insert host call result).eval ambient =
      (.ok (.zeroArity, cache.setZeroArity result), ambient) := by
  unfold insert
  rw [shape]
  rfl

theorem eval_insert_of_full (host : Host World Arg Val Ty R Err) (result : R)
    (ambient : Ambient World Ty R) (shape : call.shape maxArity = .positional arity)
    (full : cache.isFull arity = true) :
    (cache.insert host call result).eval ambient =
      (.ok (.dropped .bucketFull, cache), ambient.note (.bucketFull arity)) := by
  unfold insert
  simp only [shape, full, if_true]
  rfl

theorem eval_insert_of_unread {cause : Err} (result : R)
    (shape : call.shape maxArity = .positional arity) (room : cache.isFull arity = false)
    (read : (extract host call.positional).eval ambient = (.error cause, after)) :
    (cache.insert host call result).eval ambient = (.error ⟨cause, cache⟩, after) := by
  unfold insert
  simp only [shape, room, Bool.false_eq_true, if_false]
  exact Run.eval_bind_error _ (Run.eval_adapt_error _ read)

theorem eval_commit_of_room {print : Fingerprint Ty} (result : R) (ambient : Ambient World Ty R)
    (room : cache.isFull print.arity = false) :
    (cache.commit print result : Run World Ty R Err _).eval ambient =
      (.ok (cache.insertFingerprint print result), ambient) := by
  have taken : (cache.insertFingerprint print result).1 ≠ .dropped .bucketFull := by
    have h := insertion cache print result
    generalize cache.insertFingerprint print result = filed at h ⊢
    cases h <;> simp_all
  unfold commit
  simp only [taken, if_false]
  rfl

/-- Room was seen before the arguments were read, so a fingerprint that was read finds it. -/
theorem eval_insert_of_read {print : Fingerprint Ty} (result : R)
    (shape : call.shape maxArity = .positional arity) (room : cache.isFull arity = false)
    (read : (extract host call.positional).eval ambient = (.ok print, after)) :
    (cache.insert host call result).eval ambient =
      (.ok (cache.insertFingerprint print result), after) := by
  have arity_eq : print.arity = arity := arity_of_extract_positional shape read
  unfold insert
  simp only [shape, room, Bool.false_eq_true, if_false]
  refine (Run.eval_bind_ok _ (Run.eval_adapt_ok _ read)).trans ?_
  exact eval_commit_of_room result after (arity_eq ▸ room)

/-- Where the arguments can be read, the insert of a call comes down to that of its fingerprint. -/
theorem exists_eval_insert_of_read {print : Fingerprint Ty} (cache : Cache Ty R) (result : R)
    (shape : call.shape maxArity = .positional arity)
    (read : (extract host call.positional).eval ambient = (.ok print, after)) :
    ∃ later, (cache.insert host call result).eval ambient =
      (.ok (cache.insertFingerprint print result), later) := by
  cases full : cache.isFull arity with
  | true =>
    have narrow := (Capture.arity_of_positional shape).2.2
    obtain rfl : print.arity = arity := arity_of_extract_positional shape read
    rw [insertFingerprint_of_full full narrow result]
    exact ⟨_, eval_insert_of_full host result ambient shape full⟩
  | false => exact ⟨after, eval_insert_of_read result shape full read⟩

/-- The ways the insert of a result for a call can go. -/
inductive CallInsert (cache : Cache Ty R) (host : Host World Arg Val Ty R Err)
    (call : Capture Arg) (result : R) (ambient : Ambient World Ty R) :
    Except (Halted (Cache Ty R) Err) (InsertOutcome × Cache Ty R) × Ambient World Ty R →
      Prop where
  | uncacheable {reason : DropReason} (shape : (call.shape maxArity).isCacheable = false) :
      CallInsert cache host call result ambient (.ok (.dropped reason, cache), ambient)
  | zeroArity (shape : call.shape maxArity = .zeroArity) :
      CallInsert cache host call result ambient
        (.ok (.zeroArity, cache.setZeroArity result), ambient)
  | full {arity : Nat} (shape : call.shape maxArity = .positional arity)
      (full : cache.isFull arity = true) :
      CallInsert cache host call result ambient
        (.ok (.dropped .bucketFull, cache), ambient.note (.bucketFull arity))
  | unread {arity cause after} (shape : call.shape maxArity = .positional arity)
      (room : cache.isFull arity = false)
      (read : (extract host call.positional).eval ambient = (.error cause, after)) :
      CallInsert cache host call result ambient (.error ⟨cause, cache⟩, after)
  | read {arity print filed after} (shape : call.shape maxArity = .positional arity)
      (room : cache.isFull arity = false)
      (read : (extract host call.positional).eval ambient = (.ok print, after))
      (inserted : cache.insertFingerprint print result = filed) :
      CallInsert cache host call result ambient (.ok filed, after)

theorem callInsert (cache : Cache Ty R) (host : Host World Arg Val Ty R Err)
    (call : Capture Arg) (result : R) (ambient : Ambient World Ty R) :
    CallInsert cache host call result ambient ((cache.insert host call result).eval ambient) := by
  rcases Capture.shape_cases call with shape | shape | ⟨arity, shape⟩
  · obtain ⟨reason, kept⟩ := eval_insert_of_uncacheable cache host result ambient shape
    rw [kept]
    exact .uncacheable shape
  · rw [eval_insert_of_zeroArity cache host result ambient shape]
    exact .zeroArity shape
  · cases full : cache.isFull arity with
    | true =>
      rw [eval_insert_of_full host result ambient shape full]
      exact .full shape full
    | false =>
      rcases read : (extract host call.positional).eval ambient with ⟨cause | print, after⟩
      · rw [eval_insert_of_unread result shape full read]
        exact .unread shape full read
      · rw [eval_insert_of_read result shape full read]
        exact .read shape full read rfl

/-- An insert that fails leaves the cache as it was. -/
theorem left_of_insert {halted : Halted (Cache Ty R) Err}
    (failed : (cache.insert host call result).eval ambient = (.error halted, after)) :
    halted.left = cache := by
  have way := cache.callInsert host call result ambient
  rw [failed] at way
  cases way
  rfl

end DispatchCache.Cache

namespace DispatchCache

variable {World Arg Val Ty R Err : Type} [DecidableEq Ty]
variable {host : Host World Arg Val Ty R Err} {ambient after : Ambient World Ty R}
variable {handle : Option (Cache Ty R)} {call : Capture Arg} {result : R} {filed : Cache Ty R}

/-- Adding to a handle is inserting into its cache, or into an empty one if there is none. -/
theorem eval_add_of_insert {outcome : InsertOutcome}
    (inserted : ((handle.getD (Cache.empty default)).insert host call result).eval ambient =
      (.ok (outcome, filed), after)) :
    (add host handle call result).eval ambient = (.ok filed, after) := by
  cases handle with
  | none => exact Run.eval_bind_ok _ (Run.eval_adapt_ok _ inserted)
  | some cache => exact Run.eval_bind_ok _ (Run.eval_adapt_ok _ inserted)

/-- What a failing insert leaves stays in the handle if it was there before. -/
theorem eval_add_of_unfiled {cause : Err} {left : Cache Ty R}
    (unfiled : ((handle.getD (Cache.empty default)).insert host call result).eval ambient =
      (.error ⟨cause, left⟩, after)) :
    (add host handle call result).eval ambient =
      (.error ⟨cause, handle.map fun _ => left⟩, after) := by
  cases handle with
  | none => exact Run.eval_bind_error _ (Run.eval_adapt_error _ unfiled)
  | some cache => exact Run.eval_bind_error _ (Run.eval_adapt_error _ unfiled)

theorem exists_insert_of_add
    (added : (add host handle call result).eval ambient = (.ok filed, after)) :
    ∃ outcome, ((handle.getD (Cache.empty default)).insert host call result).eval ambient =
      (.ok (outcome, filed), after) := by
  rcases inserted : ((handle.getD (Cache.empty default)).insert host call result).eval ambient
    with ⟨⟨cause, left⟩ | ⟨outcome, cache⟩, stop⟩
  · cases (eval_add_of_unfiled inserted).symm.trans added
  · cases (eval_add_of_insert inserted).symm.trans added
    exact ⟨outcome, rfl⟩

/-- Adding that fails leaves the handle as it was. -/
theorem left_of_add {halted : Halted (Option (Cache Ty R)) Err}
    (failed : (add host handle call result).eval ambient = (.error halted, after)) :
    halted.left = handle := by
  rcases inserted : ((handle.getD (Cache.empty default)).insert host call result).eval ambient
    with ⟨⟨cause, left⟩ | ⟨outcome, cache⟩, stop⟩
  · cases (eval_add_of_unfiled inserted).symm.trans failed
    obtain rfl : left = handle.getD (Cache.empty default) := Cache.left_of_insert inserted
    cases handle with
    | none => rfl
    | some cache => rfl
  · cases (eval_add_of_insert inserted).symm.trans failed

end DispatchCache
