import DispatchCache.Proofs.Cache.Calls
import DispatchCache.Proofs.SharedCache.Serving
import DispatchCache.Declared

/-! # Calls and their fingerprints

The shape of a call and the length of a bucket decide before any argument is read whether a result
can be filed at all, and the fingerprint decides it again when the result is filed. Both draw the
same lines, for one cache as for a shared one. So filing for a call comes down to filing under its
fingerprint, also where no argument is read. -/

namespace DispatchCache

variable {World Arg Val Ty R Err : Type} {call : Capture Arg}

/-- Whether a result for a nameless call is refused without a look at its arguments. -/
def Cache.refuses (cache : Cache Ty R) (arity : Nat) : Bool :=
  maxArity < arity || cache.isFull arity

variable [DecidableEq Ty] {host : Host World Arg Val Ty R Err}
variable {print : Fingerprint Ty} {start stop : Ambient World Ty R} {result : R}

namespace Cache

variable {cache : Cache Ty R}

/-- What is refused for a call is refused for every fingerprint of its arity. No host is asked. -/
theorem eval_insert_of_refuses (nameless : call.hasNamed = false)
    (refuses : cache.refuses call.arity = true) (arity : print.arity = call.arity)
    (host : Host World Arg Val Ty R Err) (result : R) (start : Ambient World Ty R) :
    (cache.insert host call result).eval start =
      (.ok (cache.insertFingerprint print result),
        if maxArity < call.arity then start else start.note (.bucketFull call.arity)) := by
  rw [Cache.refuses, Bool.or_eq_true, decide_eq_true_eq] at refuses
  by_cases wide : maxArity < call.arity
  · rw [if_pos wide, cache.insertFingerprint_of_wide print result (arity ▸ wide), insert,
      Capture.shape_of_wide nameless wide]
    rfl
  · have full := refuses.resolve_left wide
    have pos : 0 < call.arity := by
      apply Nat.pos_of_ne_zero
      intro zero
      rw [zero] at full
      cases full
    have shape := Capture.shape_of_nameless nameless pos (by omega)
    rw [if_neg wide, insertFingerprint_of_full (arity ▸ full) (by omega) result]
    exact eval_insert_of_full host result start shape full

/-- What is not refused is filed once the arguments are read. -/
theorem eval_insert_of_accepts (nameless : call.hasNamed = false)
    (accepts : cache.refuses call.arity = false)
    (read : (extract host call.positional).eval start = (.ok print, stop)) (result : R) :
    (cache.insert host call result).eval start =
      (.ok (cache.insertFingerprint print result), stop) := by
  rw [Cache.refuses, Bool.or_eq_false_iff, decide_eq_false_iff_not] at accepts
  by_cases zero : call.arity = 0
  · have shape := Capture.shape_of_arity_zero nameless zero
    rw [Capture.positional_of_zeroArity shape] at read
    cases read
    exact cache.eval_insert_of_zeroArity host result start shape
  · have shape := Capture.shape_of_nameless nameless (Nat.pos_of_ne_zero zero) (by omega)
    exact eval_insert_of_read result shape accepts.2 read

theorem fst_eval_lookup_of_read (cache : Cache Ty R) (nameless : call.hasNamed = false)
    (pos : 0 < call.arity)
    (read : (extract host call.positional).eval start = (.ok print, stop)) :
    ((cache.lookup host call).eval start).1 = .ok (cache.get print) := by
  by_cases wide : maxArity < call.arity
  · have arity : print.arity = call.arity := arity_of_extract read
    have outside : ¬ (0 < print.arity ∧ print.arity ≤ maxArity) := by omega
    rw [lookup, Capture.shape_of_wide nameless wide, cache.get_of_outside outside]
    rfl
  · have shape := Capture.shape_of_nameless nameless pos (by omega)
    rw [eval_lookup_of_read cache shape read]

end Cache

namespace SharedCache

variable {place : Nat}

/-- The outcome and the cache behind a shared one are those of the cache that it holds. -/
theorem insertFingerprint_eq (shared : SharedCache Ty R) (print : Fingerprint Ty) (result : R) :
    (shared.insertFingerprint print result).1 = (shared.current.insertFingerprint print result).1 ∧
      (shared.insertFingerprint print result).2.current =
        (shared.current.insertFingerprint print result).2 := ⟨rfl, rfl⟩

/-- What is refused for a call is refused under the write lock as well. -/
theorem eval_add_of_refuses (nameless : call.hasNamed = false)
    (refuses : (start.cacheAt place).refuses call.arity = true)
    (arity : print.arity = call.arity) (host : Host World Arg Val Ty R Err) (result : R) :
    (add host place call result).eval start =
        (.ok ((start.sharedAt place).insertFingerprint print result).1, start) ∧
      ((start.sharedAt place).insertFingerprint print result).2.current = start.cacheAt place := by
  rw [(insertFingerprint_eq _ print result).1, (insertFingerprint_eq _ print result).2,
    ← Ambient.cacheAt]
  rw [Cache.refuses, Bool.or_eq_true, decide_eq_true_eq] at refuses
  by_cases wide : maxArity < call.arity
  · rw [Cache.insertFingerprint_of_wide _ print result (arity ▸ wide), add,
      Capture.shape_of_wide nameless wide]
    exact ⟨rfl, rfl⟩
  · have full := refuses.resolve_left wide
    have accepted : (call.shape maxArity).refusal? = none :=
      (CallShape.isCacheable_iff _).mp
        (Capture.isCacheable_shape_iff.mpr ⟨nameless, Nat.le_of_not_lt wide⟩)
    rw [Cache.insertFingerprint_of_full (arity ▸ full) (by omega) result]
    exact ⟨eval_add_of_full accepted full, rfl⟩

/-- What is not refused is filed by what the shared cache holds once the arguments are read. -/
theorem eval_add_of_accepts (nameless : call.hasNamed = false)
    (accepts : (start.cacheAt place).refuses call.arity = false)
    (read : (extract host call.positional).eval start = (.ok print, stop)) (result : R)
    (here : place < stop.shared.length) :
    ∃ later, (add host place call result).eval start =
        (.ok ((stop.sharedAt place).insertFingerprint print result).1, later) ∧
      later.cacheAt place = ((stop.sharedAt place).insertFingerprint print result).2.current := by
  rw [Cache.refuses, Bool.or_eq_false_iff, decide_eq_false_iff_not] at accepts
  have accepted : (call.shape maxArity).refusal? = none :=
    (CallShape.isCacheable_iff _).mp
      (Capture.isCacheable_shape_iff.mpr ⟨nameless, Nat.le_of_not_lt accepts.1⟩)
  refine ⟨_, eval_add_of_read accepted accepts.2 read, ?_⟩
  exact stop.cacheAt_access print (.add call result) here

end SharedCache

/-- A call is used as its fingerprint is. -/
structure UsedAs (host : Host World Arg Val Ty R Err) (call : Capture Arg) (print : Fingerprint Ty)
    (result : R) (start stop : Ambient World Ty R) : Prop where
  insert : ∀ cache : Cache Ty R, (cache.insert host call result).eval start =
    (.ok (cache.insertFingerprint print result),
      if maxArity < call.arity then start
      else if cache.isFull call.arity then start.note (.bucketFull call.arity) else stop)
  lookup : ∀ cache : Cache Ty R, 0 < call.arity →
    ((cache.lookup host call).eval start).1 = .ok (cache.get print)
  /-- What is refused is refused for all hosts. -/
  unread : ∀ cache : Cache Ty R, maxArity < call.arity ∨ cache.isFull call.arity = true →
    ∀ other : Host World Arg Val Ty R Err,
      (cache.insert other call result).eval start = (cache.insert host call result).eval start
  addShared : ∀ place, place < start.shared.length →
    stop.shared[place]? = start.shared[place]? →
    ∃ later, (SharedCache.add host place call result).eval start =
        (.ok ((start.sharedAt place).insertFingerprint print result).1, later) ∧
      later.cacheAt place = ((start.sharedAt place).insertFingerprint print result).2.current
  unreadShared : ∀ place,
    maxArity < call.arity ∨ (start.sharedAt place).isFull call.arity = true →
    ∀ other : Host World Arg Val Ty R Err, (SharedCache.add other place call result).eval start =
      (.ok ((start.sharedAt place).insertFingerprint print result).1, start)

/-- A nameless call whose arguments can be read is used as its fingerprint is. Its result is filed
with the same outcome in the same cache, and found for it is what is found for the fingerprint. That
holds for a shared cache too, provided that reading the arguments leaves it as it is. What has no
bucket or finds it full is refused alike for all hosts, as no argument is read. -/
theorem used_as_fingerprint (result : R) (nameless : call.hasNamed = false)
    (read : (extract host call.positional).eval start = (.ok print, stop)) :
    UsedAs host call print result start stop := by
  have arity : print.arity = call.arity := arity_of_extract read
  have refuses_iff : ∀ cache : Cache Ty R, cache.refuses call.arity = true ↔
      maxArity < call.arity ∨ cache.isFull call.arity = true := by
    intro cache
    rw [Cache.refuses, Bool.or_eq_true, decide_eq_true_eq]
  constructor
  case insert =>
    intro cache
    cases refuses : cache.refuses call.arity with
    | true =>
      rw [Cache.eval_insert_of_refuses nameless refuses arity]
      split_ifs with wide full
      · rfl
      · rfl
      · exact absurd ((refuses_iff cache).mp refuses) (by simp [wide, full])
    | false =>
      have neither := mt (refuses_iff cache).mpr (by simp [refuses])
      rw [if_neg fun wide => neither (.inl wide), if_neg fun full => neither (.inr full)]
      exact Cache.eval_insert_of_accepts nameless refuses read result
  case lookup => exact fun cache pos => cache.fst_eval_lookup_of_read nameless pos read
  case unread =>
    intro cache refused other
    have refuses := (refuses_iff cache).mpr refused
    rw [Cache.eval_insert_of_refuses nameless refuses arity,
      Cache.eval_insert_of_refuses nameless refuses arity]
  case addShared =>
    intro place here kept
    cases refuses : (start.cacheAt place).refuses call.arity with
    | true =>
      obtain ⟨added, unchanged⟩ :=
        SharedCache.eval_add_of_refuses nameless refuses arity host result
      exact ⟨start, added, unchanged.symm⟩
    | false =>
      have here' : place < stop.shared.length := by
        rw [List.getElem?_eq_getElem here] at kept
        exact (List.getElem?_eq_some_iff.mp kept).1
      have same : stop.sharedAt place = start.sharedAt place := by
        rw [Ambient.sharedAt, Ambient.sharedAt, kept]
      rw [← same]
      exact SharedCache.eval_add_of_accepts nameless refuses read result here'
  case unreadShared =>
    intro place refused other
    rw [SharedCache.isFull_eq] at refused
    exact (SharedCache.eval_add_of_refuses nameless ((refuses_iff _).mpr refused) arity other
      result).1

/-- A container is stored in an empty cache, plain or shared, under the slot that reading it makes.
Where sixteen results are stored already, no argument is read. -/
theorem declared_container_used :
    let host : Host Declared.World Declared.Arg Declared.Val Nat String _ := Declared.host []
    let call : Capture Declared.Arg :=
      ⟨[{ id := 7, writable := true, own := some 0, held := some 3 }], []⟩
    let print : Fingerprint Nat := ⟨[.writableObject ⟨.inst, 0⟩]⟩
    let cache : Cache Nat String := .empty .allowDuplicates
    let crowded := cache.setBucket 1 (List.replicate maxPerArity ⟨print, "old"⟩)
    let start : Ambient Declared.World Nat String :=
      { world := [], shared := [.empty .allowDuplicates, ⟨some crowded, .allowDuplicates⟩] }
    (((cache.insert host call "new").eval start).1 =
        .ok (.stored, cache.setBucket 1 [⟨print, "new"⟩]) ∧
      ((crowded.lookup host call).eval start).1 = .ok (some "old") ∧
      (crowded.insert host call "new").eval start =
        (.ok (.dropped .bucketFull, crowded), start.note (.bucketFull 1))) ∧
    ((SharedCache.add host 0 call "new").eval start).1 = .ok .stored ∧
      ∀ other : Host Declared.World Declared.Arg Declared.Val Nat String Declared.Unreadable,
        (SharedCache.add other 1 call "new").eval start = (.ok (.dropped .bucketFull), start) := by
  intro host call print cache crowded start
  have read : (extract host call.positional).eval start = (.ok print, _) := rfl
  have full : crowded.isFull call.arity = true := by decide
  have dropped : crowded.insertFingerprint print "new" = (.dropped .bucketFull, crowded) :=
    Cache.insertFingerprint_of_full full (by decide) "new"
  have filled : ((start.sharedAt 1).insertFingerprint print "new").1 = .dropped .bucketFull :=
    congrArg Prod.fst dropped
  have known : crowded.get print = some "old" := by decide
  have used := used_as_fingerprint "new" rfl read
  have refused := used.insert crowded
  have found := used.lookup crowded (by decide)
  obtain ⟨later, added, -⟩ := used.addShared 0 (by decide) rfl
  rw [dropped, full, if_neg (by decide), if_pos rfl] at refused
  rw [known] at found
  refine ⟨⟨congrArg Prod.fst (used.insert cache), found, refused⟩, congrArg Prod.fst added, ?_⟩
  intro other
  rw [used.unreadShared 1 (.inr full) other, filled]

end DispatchCache
