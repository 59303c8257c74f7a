import DispatchCache.Proofs.Cache.Insertion
import DispatchCache.Proofs.Extraction
import DispatchCache.SharedCache.Access

/-! # Requests to a shared cache

A request is answered at once, or its arguments are read and the shared cache is accessed
after that, by what it holds by then. The one access does to the cache behind it what the
same access does to a plain cache, and it touches no other shared cache. -/

namespace DispatchCache

variable {World Arg Val Ty R Err : Type}

/-- What a cache can be asked. -/
inductive CacheRequest (Arg R : Type) where
  | find (call : Capture Arg)
  | add (call : Capture Arg) (result : R)
  deriving DecidableEq

inductive CacheAnswer (R : Type) where
  | found (result : Option R)
  | filed (outcome : InsertOutcome)
  deriving DecidableEq

/-- Why calls of this shape are never cached, if they are not. -/
def CallShape.refusal? : CallShape → Option DropReason
  | .named => some .namedArguments
  | .tooWide _ => some .tooManyArguments
  | .zeroArity | .positional _ => none

theorem CallShape.isCacheable_iff (shape : CallShape) :
    shape.isCacheable = true ↔ shape.refusal? = none := by
  cases shape <;> simp [isCacheable, refusal?]

theorem CallShape.refused_cases {shape : CallShape} {reason : DropReason}
    (refused : shape.refusal? = some reason) :
    shape = .named ∧ reason = .namedArguments ∨
      ∃ arity, shape = .tooWide arity ∧ reason = .tooManyArguments := by
  cases shape with
  | named =>
    cases refused
    exact .inl ⟨rfl, rfl⟩
  | tooWide arity =>
    cases refused
    exact .inr ⟨arity, rfl, rfl⟩
  | zeroArity => cases refused
  | positional arity => cases refused

/-- A call that is not refused has no arguments, or they decide. -/
theorem Capture.accepted_cases {call : Capture Arg}
    (accepted : (call.shape maxArity).refusal? = none) :
    call.shape maxArity = .zeroArity ∨ call.shape maxArity = .positional call.arity := by
  rcases call.shape_cases with form | form | ⟨arity, form⟩
  · rw [(CallShape.isCacheable_iff _).mpr accepted] at form
    cases form
  · exact .inl form
  · obtain rfl := (arity_of_positional form).1
    exact .inr form

namespace CacheRequest

def call : CacheRequest Arg R → Capture Arg
  | .find call | .add call _ => call

/-- The answer for a call that is never cached. -/
def refused (reason : DropReason) : CacheRequest Arg R → CacheAnswer R
  | .find _ => .found none
  | .add _ _ => .filed (.dropped reason)

/-- Whether a full bucket answers the request before any argument is read. -/
def stops (cache : Cache Ty R) : CacheRequest Arg R → Bool
  | .find _ => false
  | .add call _ => cache.isFull call.arity

/-- Whether the arguments are read. -/
def reads (cache : Cache Ty R) (request : CacheRequest Arg R) : Bool :=
  (request.call.shape maxArity).isCacheable && !request.stops cache

theorem reads_iff (cache : Cache Ty R) (request : CacheRequest Arg R) :
    request.reads cache = true ↔
      (request.call.shape maxArity).refusal? = none ∧ request.stops cache = false := by
  rw [reads, Bool.and_eq_true, Bool.not_eq_true', CallShape.isCacheable_iff]

end CacheRequest

namespace Cache

variable [DecidableEq Ty]

/-- What a cache knows for a fingerprint. The slot answers for the one without keys. -/
def answer (cache : Cache Ty R) (print : Fingerprint Ty) : Option R :=
  if print.arity = 0 then cache.zeroArity else cache.get print

/-- A request whose arguments were read. -/
def access (cache : Cache Ty R) (print : Fingerprint Ty) :
    CacheRequest Arg R → CacheAnswer R × Cache Ty R
  | .find _ => (.found (cache.answer print), cache)
  | .add _ result =>
    (.filed (cache.insertFingerprint print result).1, (cache.insertFingerprint print result).2)

end Cache

namespace Ambient

/-- The cache that results for a place are filed in. -/
def cacheAt (ambient : Ambient World Ty R) (place : Nat) : Cache Ty R :=
  (ambient.sharedAt place).current

/-- A shared cache that was never used holds what a new cache does. -/
theorem cacheAt_of_fresh {place : Nat} {policy : InsertPolicy} {start : Ambient World Ty R}
    (fresh : start.shared[place]? = some (SharedCache.empty policy)) :
    start.cacheAt place = Cache.empty policy := by
  rw [cacheAt, sharedAt, fresh]
  rfl

@[simp] theorem length_setSharedAt (ambient : Ambient World Ty R) (place : Nat)
    (shared : SharedCache Ty R) :
    (ambient.setSharedAt place shared).shared.length = ambient.shared.length := by
  simp [setSharedAt]

theorem sharedAt_setSharedAt_self {ambient : Ambient World Ty R} {place : Nat}
    (here : place < ambient.shared.length) (shared : SharedCache Ty R) :
    (ambient.setSharedAt place shared).sharedAt place = shared := by
  simp [setSharedAt, sharedAt, here]

theorem sharedAt_setSharedAt_of_ne {place other : Nat} (apart : other ≠ place)
    (ambient : Ambient World Ty R) (shared : SharedCache Ty R) :
    (ambient.setSharedAt place shared).sharedAt other = ambient.sharedAt other := by
  simp [setSharedAt, sharedAt, apart.symm]

theorem sharedAt_note (ambient : Ambient World Ty R) (event : Event) (place : Nat) :
    (ambient.note event).sharedAt place = ambient.sharedAt place := rfl

variable [DecidableEq Ty]

/-- Accesses the shared cache at a place for a request whose arguments were read. -/
def access (ambient : Ambient World Ty R) (place : Nat) (print : Fingerprint Ty) :
    CacheRequest Arg R → CacheAnswer R × Ambient World Ty R
  | .find _ => (.found ((ambient.cacheAt place).answer print), ambient)
  | .add _ result =>
    let filed := (ambient.sharedAt place).insertFingerprint print result
    let after := ambient.setSharedAt place filed.2
    (.filed filed.1, if filed.1 = .dropped .bucketFull then after.note (.bucketFull print.arity)
      else after)

variable (ambient : Ambient World Ty R) (place : Nat) (print : Fingerprint Ty)
variable (request : CacheRequest Arg R)

theorem access_fst :
    (ambient.access place print request).1 = ((ambient.cacheAt place).access print request).1 := by
  cases request <;> rfl

theorem world_access : (ambient.access place print request).2.world = ambient.world := by
  cases request with
  | find call => rfl
  | add call result =>
    simp only [access]
    split_ifs <;> rfl

theorem slots_access : (ambient.access place print request).2.slots = ambient.slots := by
  cases request with
  | find call => rfl
  | add call result =>
    simp only [access]
    split_ifs <;> rfl

theorem length_access :
    (ambient.access place print request).2.shared.length = ambient.shared.length := by
  cases request with
  | find call => rfl
  | add call result =>
    simp only [access]
    split_ifs <;> exact length_setSharedAt _ _ _

/-- The cache behind the accessed place becomes what a plain one becomes. -/
theorem cacheAt_access {place : Nat} (here : place < ambient.shared.length) :
    (ambient.access place print request).2.cacheAt place =
      ((ambient.cacheAt place).access print request).2 := by
  cases request with
  | find call => rfl
  | add call result =>
    simp only [access, cacheAt]
    split_ifs
    · rw [sharedAt_note, sharedAt_setSharedAt_self here]
      rfl
    · rw [sharedAt_setSharedAt_self here]
      rfl

theorem sharedAt_access_of_ne {place other : Nat} (apart : other ≠ place) :
    (ambient.access place print request).2.sharedAt other = ambient.sharedAt other := by
  cases request with
  | find call => rfl
  | add call result =>
    simp only [access]
    split_ifs
    · rw [sharedAt_note, sharedAt_setSharedAt_of_ne apart]
    · rw [sharedAt_setSharedAt_of_ne apart]

end Ambient

namespace SharedCache

variable [DecidableEq Ty]

theorem get_eq (shared : SharedCache Ty R) (print : Fingerprint Ty) :
    shared.get print = shared.current.get print := by
  rcases shared with ⟨_ | cache, policy⟩
  · simp [get, current, Cache.get]
  · rfl

omit [DecidableEq Ty] in
theorem zeroArity_eq (shared : SharedCache Ty R) : shared.zeroArity = shared.current.zeroArity := by
  rcases shared with ⟨_ | cache, policy⟩ <;> rfl

omit [DecidableEq Ty] in
theorem isFull_eq (shared : SharedCache Ty R) (arity : Nat) :
    shared.isFull arity = shared.current.isFull arity := by
  rcases shared with ⟨_ | cache, policy⟩
  · simp [isFull, current]
  · rfl

omit [DecidableEq Ty] in
theorem len_eq (shared : SharedCache Ty R) : shared.len = shared.current.len := by
  rcases shared with ⟨_ | cache, policy⟩
  · rfl
  · rfl

/-- Answers a request from the shared cache at a place. -/
def serve (host : Host World Arg Val Ty R Err) (place : Nat) :
    CacheRequest Arg R → Run World Ty R Err (CacheAnswer R)
  | .find call => .found <$> find host place call
  | .add call result => .filed <$> add host place call result

omit [DecidableEq Ty] in
theorem eval_sharedAt (place : Nat) (ambient : Ambient World Ty R) :
    (Run.sharedAt place : Run World Ty R Err _).eval ambient =
      (.ok (ambient.sharedAt place), ambient) := rfl

/-- The ways a request can be served. -/
inductive Serving (host : Host World Arg Val Ty R Err) (place : Nat)
    (request : CacheRequest Arg R) (start : Ambient World Ty R) :
    Except Err (CacheAnswer R) × Ambient World Ty R → Prop where
  | refused {reason} (shape : (request.call.shape maxArity).refusal? = some reason) :
      Serving host place request start (.ok (request.refused reason), start)
  | full {call result} (add : request = .add call result)
      (shape : (call.shape maxArity).refusal? = none)
      (full : (start.cacheAt place).isFull call.arity = true) :
      Serving host place request start (.ok (.filed (.dropped .bucketFull)), start)
  | unread {cause after} (reads : request.reads (start.cacheAt place) = true)
      (read : (extract host request.call.positional).eval start = (.error cause, after)) :
      Serving host place request start (.error cause, after)
  | read {print after} (reads : request.reads (start.cacheAt place) = true)
      (read : (extract host request.call.positional).eval start = (.ok print, after)) :
      Serving host place request start
        (.ok (after.access place print request).1, (after.access place print request).2)

section Serving

variable {host : Host World Arg Val Ty R Err} {place : Nat} {start after : Ambient World Ty R}
variable {request : CacheRequest Arg R} {call : Capture Arg} {result : R}

theorem eval_serve_of_refused {reason : DropReason}
    (shape : (request.call.shape maxArity).refusal? = some reason) :
    (serve host place request).eval start = (.ok (request.refused reason), start) := by
  have cases_of_shape := CallShape.refused_cases shape
  cases request with
  | find call =>
    simp only [serve, find, CacheRequest.call] at cases_of_shape ⊢
    rcases cases_of_shape with ⟨form, rfl⟩ | ⟨arity, form, rfl⟩
    · rw [form]
      rfl
    · rw [form]
      rfl
  | add call result =>
    simp only [serve, add, CacheRequest.call] at cases_of_shape ⊢
    rcases cases_of_shape with ⟨form, rfl⟩ | ⟨arity, form, rfl⟩
    · rw [form]
      rfl
    · rw [form]
      rfl

theorem eval_add_of_full (accepted : (call.shape maxArity).refusal? = none)
    (full : (start.cacheAt place).isFull call.arity = true) :
    (add host place call result).eval start = (.ok (.dropped .bucketFull), start) := by
  unfold add
  rcases Capture.accepted_cases accepted with form | form
  · rw [Capture.arity, Capture.positional_of_zeroArity form] at full
    cases full
  · rw [form]
    refine (Run.eval_bind_ok _ (eval_sharedAt place start)).trans ?_
    rw [Ambient.cacheAt, ← isFull_eq] at full
    rw [if_pos full]
    rfl

theorem eval_serve_of_full (accepted : (call.shape maxArity).refusal? = none)
    (full : (start.cacheAt place).isFull call.arity = true) :
    (serve host place (.add call result)).eval start =
      (.ok (.filed (.dropped .bucketFull)), start) :=
  Run.eval_map_ok _ (eval_add_of_full accepted full)

theorem eval_commit (place : Nat) (print : Fingerprint Ty) (call : Capture Arg) (result : R)
    (ambient : Ambient World Ty R) :
    (commit place print result : Run World Ty R Err _).eval ambient =
      (.ok ((ambient.sharedAt place).insertFingerprint print result).1,
        (ambient.access place print (.add call result)).2) := by
  unfold commit
  refine (Run.eval_bind_ok _ (eval_sharedAt place ambient)).trans ?_
  simp only [Ambient.access]
  by_cases full :
      ((ambient.sharedAt place).insertFingerprint print result).1 = .dropped .bucketFull
  · simp only [full, if_true]
    rfl
  · simp only [full, if_false]
    rfl

theorem eval_find_of_read {print : Fingerprint Ty}
    (accepted : (call.shape maxArity).refusal? = none)
    (read : (extract host call.positional).eval start = (.ok print, after)) :
    (find host place call).eval start =
      (.ok ((after.cacheAt place).answer print), after) := by
  unfold find
  rcases Capture.accepted_cases accepted with form | form
  · rw [Capture.positional_of_zeroArity form, eval_extract_nil] at read
    cases read
    rw [form]
    change (Except.ok (start.sharedAt place).zeroArity, start) = _
    rw [zeroArity_eq]
    rfl
  · have arity_pos : print.arity ≠ 0 := by
      rw [arity_of_extract_positional form read]
      have pos := (Capture.arity_of_positional form).2.1
      omega
    rw [form, Cache.answer, if_neg arity_pos, Ambient.cacheAt, ← get_eq]
    exact Run.eval_bind_ok _ read

theorem eval_find_of_unread {cause : Err} (accepted : (call.shape maxArity).refusal? = none)
    (read : (extract host call.positional).eval start = (.error cause, after)) :
    (find host place call).eval start = (.error cause, after) := by
  unfold find
  rcases Capture.accepted_cases accepted with form | form
  · rw [Capture.positional_of_zeroArity form, eval_extract_nil] at read
    cases read
  · rw [form]
    exact Run.eval_bind_error _ read

/-- With room, filing is what follows the reading of the arguments. -/
theorem eval_add_of_room (accepted : (call.shape maxArity).refusal? = none)
    (room : (start.cacheAt place).isFull call.arity = false) :
    (add host place call result).eval start =
      (extract host call.positional >>= fun print => commit place print result).eval start := by
  unfold add
  rcases Capture.accepted_cases accepted with form | form
  · rw [form, Capture.positional_of_zeroArity form]
    exact (Run.eval_bind_ok (fun print => commit place print result)
      (eval_extract_nil host start)).symm
  · rw [form]
    refine (Run.eval_bind_ok _ (eval_sharedAt place start)).trans ?_
    rw [Ambient.cacheAt, ← isFull_eq] at room
    rw [room]
    rfl

theorem eval_add_of_read {print : Fingerprint Ty}
    (accepted : (call.shape maxArity).refusal? = none)
    (room : (start.cacheAt place).isFull call.arity = false)
    (read : (extract host call.positional).eval start = (.ok print, after)) :
    (add host place call result).eval start =
      (.ok ((after.sharedAt place).insertFingerprint print result).1,
        (after.access place print (.add call result)).2) := by
  rw [eval_add_of_room accepted room, Run.eval_bind_ok _ read]
  exact eval_commit place print call result after

theorem eval_add_of_unread {cause : Err} (accepted : (call.shape maxArity).refusal? = none)
    (room : (start.cacheAt place).isFull call.arity = false)
    (read : (extract host call.positional).eval start = (.error cause, after)) :
    (add host place call result).eval start = (.error cause, after) := by
  rw [eval_add_of_room accepted room]
  exact Run.eval_bind_error _ read

theorem eval_serve_of_read {print : Fingerprint Ty}
    (reads : request.reads (start.cacheAt place) = true)
    (read : (extract host request.call.positional).eval start = (.ok print, after)) :
    (serve host place request).eval start =
      (.ok (after.access place print request).1, (after.access place print request).2) := by
  rw [CacheRequest.reads_iff] at reads
  cases request with
  | find call => exact Run.eval_map_ok _ (eval_find_of_read reads.1 read)
  | add call result => exact Run.eval_map_ok _ (eval_add_of_read reads.1 reads.2 read)

theorem eval_serve_of_unread {cause : Err}
    (reads : request.reads (start.cacheAt place) = true)
    (read : (extract host request.call.positional).eval start = (.error cause, after)) :
    (serve host place request).eval start = (.error cause, after) := by
  rw [CacheRequest.reads_iff] at reads
  cases request with
  | find call => exact Run.eval_map_error _ (eval_find_of_unread reads.1 read)
  | add call result => exact Run.eval_map_error _ (eval_add_of_unread reads.1 reads.2 read)

end Serving

/-- Every request is served in one of these ways. -/
theorem serving (host : Host World Arg Val Ty R Err) (place : Nat) (request : CacheRequest Arg R)
    (start : Ambient World Ty R) :
    Serving host place request start ((serve host place request).eval start) := by
  cases shape : (request.call.shape maxArity).refusal? with
  | some reason =>
    rw [eval_serve_of_refused shape]
    exact .refused shape
  | none =>
    cases stops : request.stops (start.cacheAt place) with
    | true =>
      cases request with
      | find call => cases stops
      | add call result =>
        have answered : (serve host place (.add call result)).eval start =
            (.ok (.filed (.dropped .bucketFull)), start) := eval_serve_of_full shape stops
        rw [answered]
        exact .full rfl shape stops
    | false =>
      have reads := (request.reads_iff _).mpr ⟨shape, stops⟩
      rcases read : (extract host request.call.positional).eval start with ⟨cause | print, after⟩
      · rw [eval_serve_of_unread reads read]
        exact .unread reads read
      · rw [eval_serve_of_read reads read]
        exact .read reads read

end SharedCache

end DispatchCache
