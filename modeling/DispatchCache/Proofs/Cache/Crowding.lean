import DispatchCache.Proofs.Cache.Reachable
import DispatchCache.Proofs.Cache.Contents
import DispatchCache.Proofs.CallSite.Course
import DispatchCache.Proofs.SharedCache.Serving
import DispatchCache.Declared
import DispatchCache.Reference.Model

/-! # Entries that are never found

A fingerprint with a key that is not set agrees with none, not even with itself. A result is filed
under it all the same. It takes up room in its bucket, as long as there is some, and is not found
again, and no policy recognizes it as a duplicate. So a run of calls with arguments of unknown kind
fills a bucket, and leaves no room there for calls that could be found. -/

namespace DispatchCache

variable {World Arg Val Ty R Err : Type} [DecidableEq Ty]

namespace Cache

/-- What is left of a cache after a result was filed that is never found. Its entry takes up room,
if there is some, and shows in no answer. -/
structure TakesRoom (cache : Cache Ty R) (print : Fingerprint Ty) (result : R)
    (filed : Cache Ty R) : Prop where
  bucket : ∀ arity, filed.bucket arity =
    if arity = print.arity ∧ cache.isFull arity = false then
      cache.bucket arity ++ [⟨print, result⟩]
    else cache.bucket arity
  zeroArity : filed.zeroArity = cache.zeroArity
  policy : filed.policy = cache.policy
  get : ∀ other, filed.get other = cache.get other
  missed : filed.get print = none

variable {cache filed : Cache Ty R} {print : Fingerprint Ty} {result : R}

/-- The buckets are left as they were exactly if there is no room. -/
theorem TakesRoom.bucket_eq_iff (takes : cache.TakesRoom print result filed) :
    (∀ arity, filed.bucket arity = cache.bucket arity) ↔ cache.isFull print.arity = true := by
  constructor
  · intro same
    by_contra room
    have longer := takes.bucket print.arity
    rw [same, if_pos ⟨rfl, by simpa using room⟩] at longer
    simp at longer
  · intro full arity
    rw [takes.bucket]
    apply if_neg
    rintro ⟨rfl, room⟩
    rw [full] at room
    cases room

theorem TakesRoom.bucketLen_eq (takes : cache.TakesRoom print result filed)
    (fits : cache.bucketLen print.arity ≤ maxPerArity) :
    filed.bucketLen print.arity = min maxPerArity (cache.bucketLen print.arity + 1) := by
  rw [bucketLen, takes.bucket]
  by_cases full : cache.isFull print.arity = true
  · have most : maxPerArity ≤ cache.bucketLen print.arity := (cache.isFull_iff _).mp full
    rw [if_neg (fun both => by simp [full] at both), ← bucketLen]
    omega
  · have room : cache.bucketLen print.arity < maxPerArity := by simpa [isFull] using full
    rw [if_pos ⟨rfl, by simpa using full⟩, List.length_append, List.length_singleton, ← bucketLen]
    omega

theorem takesRoom_insertFingerprint (cache : Cache Ty R) (result : R)
    (unset : print.isCacheable = false) (narrow : print.arity ≤ maxArity) :
    cache.TakesRoom print result (cache.insertFingerprint print result).2 := by
  have stored : (cache.insertFingerprint print result).1 = .stored ↔
      cache.isFull print.arity = false := by
    rw [(cache.truthful_insertFingerprint print result).stored, ← Bool.not_eq_true, isFull_iff,
      Nat.not_le]
    constructor
    · exact fun both => both.2.1
    · intro room
      refine ⟨⟨Fingerprint.arity_pos_of_unset unset, narrow⟩, room, ?_⟩
      rintro ⟨-, entry, -, known⟩
      rw [(Fingerprint.agrees_of_unset unset entry.fingerprint).2] at known
      cases known
  have get : ∀ other, (cache.insertFingerprint print result).2.get other = cache.get other := by
    intro other
    rw [get_insertFingerprint, (Fingerprint.agrees_of_unset unset other).1]
    simp
  constructor
  case bucket =>
    intro arity
    simp only [bucket_insertFingerprint, stored]
    by_cases here : arity = print.arity
    · simp [here]
    · simp [here]
  case zeroArity =>
    rw [zeroArity_insertFingerprint, if_neg (Nat.ne_of_gt (Fingerprint.arity_pos_of_unset unset))]
  case policy => exact policy_insertFingerprint cache print result
  case get => exact get
  case missed => exact get_of_unset _ unset

theorem Reachable.bucketLen_le {table : SlotTable Ty} (reachable : cache.Reachable table)
    (arity : Nat) : cache.bucketLen arity ≤ maxPerArity := by
  induction reachable with
  | empty table policy => simp [bucketLen]
  | grown reachable grown ih => exact ih
  | @filed table cache reachable print given result ih =>
    have stored := (cache.truthful_insertFingerprint print result).stored
    rw [bucketLen, bucket_insertFingerprint]
    split_ifs with here
    · obtain ⟨-, room, -⟩ := stored.mp here.1
      rw [List.length_append, here.2]
      exact room
    · exact ih

/-- What is stored under a fingerprint is found under it exactly if all keys of it are set. -/
theorem Reachable.isSome_get_iff {table : SlotTable Ty} (reachable : cache.Reachable table)
    {arity : Nat} {entry : Entry Ty R} (member : entry ∈ cache.bucket arity) :
    (cache.get entry.fingerprint).isSome = entry.fingerprint.isCacheable := by
  cases set : entry.fingerprint.isCacheable with
  | false => rw [cache.get_of_unset set, Option.isSome_none]
  | true =>
    rw [get, Option.isSome_map, List.find?_isSome, reachable.arity_of_mem member]
    exact ⟨entry, member, (Fingerprint.agrees_self_iff _).mpr set⟩

/-- A run of results that are never found fills their bucket and changes no answer. -/
theorem insertAll_of_unset {arity : Nat} (narrow : arity ≤ maxArity)
    (fits : cache.bucketLen arity ≤ maxPerArity) {calls : List (Entry Ty R)}
    (unset : ∀ call ∈ calls,
      call.fingerprint.isCacheable = false ∧ call.fingerprint.arity = arity) :
    (cache.insertAll calls).bucketLen arity =
        min maxPerArity (cache.bucketLen arity + calls.length) ∧
      ∀ other, (cache.insertAll calls).get other = cache.get other := by
  induction calls using List.reverseRecOn with
  | nil =>
    refine ⟨?_, fun other => rfl⟩
    change cache.bucketLen arity = min maxPerArity (cache.bucketLen arity + 0)
    omega
  | append_singleton calls call ih =>
    obtain ⟨earlier, last⟩ := List.forall_mem_append.mp unset
    obtain ⟨never, rfl⟩ := last call (List.mem_singleton_self call)
    obtain ⟨len, same⟩ := ih earlier
    have takes := (cache.insertAll calls).takesRoom_insertFingerprint call.result never narrow
    have grown := takes.bucketLen_eq (by omega)
    rw [insertAll_concat]
    refine ⟨?_, fun other => (takes.get other).trans (same other)⟩
    rw [grown, len, List.length_append, List.length_singleton]
    omega

end Cache

section Calls

variable {host : Host World Arg Val Ty R Err} {call : Capture Arg} {print : Fingerprint Ty}
variable {start after : Ambient World Ty R}

/-- A result for a call takes up room and is never found, however it is filed. -/
structure TakesRoomAnyway (host : Host World Arg Val Ty R Err) (call : Capture Arg)
    (print : Fingerprint Ty) (result : R) (start after : Ambient World Ty R) : Prop where
  file : ∀ cache : Cache Ty R,
    cache.TakesRoom print result (cache.insertFingerprint print result).2 ∧
      ((∀ arity, (cache.insertFingerprint print result).2.bucket arity = cache.bucket arity) ↔
        cache.isFull call.arity = true)
  insert : ∀ cache : Cache Ty R, ∃ outcome filed later,
    (cache.insert host call result).eval start = (.ok (outcome, filed), later) ∧
      cache.TakesRoom print result filed
  add : ∀ handle, ∃ filed later,
    (DispatchCache.add host handle call result).eval start = (.ok filed, later) ∧
      (handle.getD (Cache.empty default)).TakesRoom print result filed
  /-- Reading may itself have filed something, so the cache is the one that is there by then. -/
  addShared : ∀ place, place < after.shared.length → ∃ outcome later,
    (SharedCache.add host place call result).eval start = (.ok outcome, later) ∧
      if (start.cacheAt place).isFull call.arity then later = start
      else (after.cacheAt place).TakesRoom print result (later.cacheAt place)
  dispatch : ∀ {Fail : Type} (site : CallSite Ty R) (resolve : Resolver World Arg Ty R Fail)
    ambient seen, site.looking host call ambient = (.ok none, seen) →
    CallSite.resolving resolve call seen = (.ok result, start) →
    ∃ filed, ((site.dispatch host resolve call).run ambient).1.answer = .ok result ∧
      ((site.dispatch host resolve call).run ambient).1.site = { site with cache := some filed } ∧
      site.opened.TakesRoom print result filed
  found : ∀ (cache : Cache Ty R) table, cache.Reachable table → ∀ arity,
    ∀ entry ∈ cache.bucket arity,
      (cache.get entry.fingerprint).isSome = entry.fingerprint.isCacheable
  run : ∀ (cache : Cache Ty R) table, cache.Reachable table → ∀ calls : List (Entry Ty R),
    (∀ entry ∈ calls, entry.fingerprint.isCacheable = false ∧
      entry.fingerprint.arity = call.arity) →
    (cache.insertAll calls).bucketLen call.arity =
        min maxPerArity (cache.bucketLen call.arity + calls.length) ∧
      ∀ other, (cache.insertAll calls).get other = cache.get other

/-- A call whose fingerprint is not cacheable takes up room however its result is filed: its
buckets are left as they were exactly where they are full. In a cache that can be built, what is
taken up like this is never found, and is all that is never found, and a run of such calls goes on
until the bucket is full. -/
theorem takesRoom_of_unset (nameless : call.hasNamed = false) (narrow : call.arity ≤ maxArity)
    (read : (extract host call.positional).eval start = (.ok print, after))
    (unset : print.isCacheable = false) (result : R) :
    TakesRoomAnyway host call print result start after := by
  have arity : print.arity = call.arity := arity_of_extract read
  have pos : 0 < call.arity := arity ▸ Fingerprint.arity_pos_of_unset unset
  have shape := Capture.shape_of_nameless nameless pos narrow
  have accepted : (call.shape maxArity).refusal? = none := by
    rw [shape]
    rfl
  have takes : ∀ cache : Cache Ty R,
      cache.TakesRoom print result (cache.insertFingerprint print result).2 :=
    fun cache => cache.takesRoom_insertFingerprint result unset (arity ▸ narrow)
  constructor
  case file =>
    intro cache
    exact ⟨takes cache, arity ▸ (takes cache).bucket_eq_iff⟩
  case insert =>
    intro cache
    obtain ⟨later, inserted⟩ := cache.exists_eval_insert_of_read result shape read
    exact ⟨_, _, later, inserted, takes cache⟩
  case add =>
    intro handle
    obtain ⟨later, inserted⟩ :=
      (handle.getD (Cache.empty default)).exists_eval_insert_of_read result shape read
    exact ⟨_, later, eval_add_of_insert inserted, takes _⟩
  case addShared =>
    intro place here
    cases full : (start.cacheAt place).isFull call.arity with
    | true => exact ⟨_, start, SharedCache.eval_add_of_full accepted full, rfl⟩
    | false =>
      refine ⟨_, _, SharedCache.eval_add_of_read accepted full read, ?_⟩
      rw [if_neg Bool.false_ne_true, after.cacheAt_access print _ here]
      exact takes (after.cacheAt place)
  case dispatch =>
    intro Fail site resolve ambient seen looked resolved
    obtain ⟨later, filed⟩ := site.opened.exists_eval_insert_of_read result shape read
    rw [CallSite.dispatch_of_resolved looked resolved, CallSite.file_of_filed filed]
    exact ⟨_, rfl, rfl, takes site.opened⟩
  case found =>
    exact fun cache table reachable arity entry member => reachable.isSome_get_iff member
  case run =>
    intro cache table reachable calls never
    exact Cache.insertAll_of_unset narrow (reachable.bucketLen_le call.arity) never

/-- An argument of unknown kind takes up the first place of a bucket and is not found there. -/
theorem declared_takesRoom :
    let host : Host Declared.World Declared.Arg Declared.Val Nat String _ := Declared.host []
    let call : Capture Declared.Arg := ⟨[{ id := 9 }], []⟩
    let start : Ambient Declared.World Nat String := { world := [] }
    ∃ filed later, (add host none call "never").eval start = (.ok filed, later) ∧
      filed.bucketLen 1 = 1 ∧ filed.get ⟨[.unset]⟩ = none := by
  intro host call start
  have read : (extract host call.positional).eval start = (.ok ⟨[.unset]⟩, start) := rfl
  obtain ⟨filed, later, added, takes⟩ :=
    (takesRoom_of_unset rfl (by decide) read rfl "never").add none
  refine ⟨filed, later, added, ?_, takes.missed⟩
  rw [Cache.bucketLen, takes.bucket 1]
  rfl

end Calls

section Foreign

open Reference

/-- A foreign argument can never be found again, but its entry stays in the cache. -/
theorem foreign_takes_room :
    (¬ ∀ (handle : Option (Cache RuntimeType String)) (call : Capture Value) (result : String)
      (start : Ambient (State Unit) RuntimeType String) print filed,
      call.hasNamed = false → 0 < call.arity → call.arity ≤ maxArity →
      ((extract (host (fun _ held => .done (.ok held)) 1) call.positional).eval start).1 =
        .ok print → print.isCacheable = false →
      ((add (host (fun _ held => .done (.ok held)) 1) handle call result).eval start).1 =
        .ok filed →
      ∀ arity, filed.bucketLen arity = (handle.getD (Cache.empty default)).bucketLen arity) ∧
    ¬ ∀ (table : SlotTable RuntimeType) (cache : Cache RuntimeType String), cache.Reachable table →
      ∀ arity, ∀ entry ∈ cache.bucket arity, (cache.get entry.fingerprint).isSome = true := by
  constructor
  · intro kept
    have same := kept none ⟨[.foreign], []⟩ "never" { world := State.new () } ⟨[.unset]⟩ _
      rfl (by decide) (by decide) rfl rfl rfl 1
    revert same
    decide
  · intro found
    have given : ∀ key ∈ (⟨[.unset]⟩ : Fingerprint RuntimeType).keys, key.GivenIn {} := by
      intro key isKey
      obtain rfl := List.mem_singleton.mp isKey
      trivial
    have hit := found {} _ ((Cache.Reachable.empty {} .allowDuplicates).filed given "never") 1
      ⟨⟨[.unset]⟩, "never"⟩ (by decide)
    revert hit
    decide

end Foreign

end DispatchCache
