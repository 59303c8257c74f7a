import DispatchCache.Proofs.Cache.Given

/-! # Caches that can be built

A cache starts empty. From then on slots are made, and results are filed under fingerprints whose
keys were given out by that time. Whatever is done to a cache, by hand or by calls, comes down to
these steps, so what they keep holds of every cache that there can be. -/

namespace DispatchCache.Cache

variable {World Arg Val Ty R Err : Type} [DecidableEq Ty]

/-- The caches that there can be once the slots of the table are made. -/
inductive Reachable : SlotTable Ty → Cache Ty R → Prop where
  | empty (table : SlotTable Ty) (policy : InsertPolicy) : Reachable table (.empty policy)
  | grown {table later : SlotTable Ty} {cache : Cache Ty R} (reachable : Reachable table cache)
      (grown : table.made <+: later.made) : Reachable later cache
  | filed {table : SlotTable Ty} {cache : Cache Ty R} (reachable : Reachable table cache)
      {print : Fingerprint Ty} (given : ∀ key ∈ print.keys, key.GivenIn table) (result : R) :
      Reachable table (cache.insertFingerprint print result).2

variable {table : SlotTable Ty} {cache : Cache Ty R}

theorem Reachable.givenIn (reachable : cache.Reachable table) : cache.GivenIn table := by
  induction reachable with
  | empty table policy => exact givenIn_empty table policy
  | grown reachable grown ih => exact ih.of_grown grown
  | filed reachable given result ih => exact ih.insertFingerprint given result

/-- The same of the cache behind a handle, which is empty if there is none. -/
theorem givenIn_getD {handle : Option (Cache Ty R)}
    (reachable : ∀ cache ∈ handle, cache.Reachable table) :
    (handle.getD (empty default)).GivenIn table := by
  cases handle with
  | none => exact givenIn_empty table default
  | some cache => exact (reachable cache rfl).givenIn

/-- What is in a bucket is of its arity. -/
theorem Reachable.arity_of_mem (reachable : cache.Reachable table) {arity : Nat}
    {entry : Entry Ty R} (member : entry ∈ cache.bucket arity) :
    entry.fingerprint.arity = arity := by
  induction reachable with
  | empty table policy => simp at member
  | grown reachable grown ih => exact ih member
  | filed reachable given result ih =>
    rw [bucket_insertFingerprint] at member
    split_ifs at member with stored
    · rcases List.mem_append.mp member with old | new
      · exact ih old
      · obtain rfl := List.mem_singleton.mp new
        exact stored.2.symm
    · exact ih member

/-- The slot is set by filing under the fingerprint without keys. -/
theorem Reachable.setZeroArity (reachable : cache.Reachable table) (result : R) :
    (cache.setZeroArity result).Reachable table := by
  have none : ∀ key ∈ (⟨[]⟩ : Fingerprint Ty).keys, key.GivenIn table := nofun
  exact reachable.filed none result

variable {host : Host World Arg Val Ty R Err} {ambient after : Ambient World Ty R}

/-- Where reading takes no slot away, calls only ever build such caches. -/
theorem Reachable.insert (watch : Watch host) (grows : watch.Keeps Ambient.Grows)
    (reachable : cache.Reachable ambient.slots) {call : Capture Arg} {result : R}
    {outcome : InsertOutcome} {filed : Cache Ty R}
    (done : (cache.insert host call result).eval ambient = (.ok (outcome, filed), after)) :
    ambient.Grows after ∧ filed.Reachable after.slots := by
  have way := cache.callInsert host call result ambient
  rw [done] at way
  cases way with
  | uncacheable shape => exact ⟨List.prefix_rfl, reachable⟩
  | zeroArity shape => exact ⟨List.prefix_rfl, reachable.setZeroArity result⟩
  | full shape full => exact ⟨List.prefix_rfl, reachable⟩
  | @read _ print _ _ shape room read inserted =>
    obtain ⟨grown, keys⟩ := givenIn_extract watch grows read
    have built := (reachable.grown grown).filed keys result
    rw [inserted] at built
    exact ⟨grown, built⟩

theorem Reachable.add (watch : Watch host) (grows : watch.Keeps Ambient.Grows)
    {handle : Option (Cache Ty R)} (reachable : ∀ cache ∈ handle, cache.Reachable ambient.slots)
    {call : Capture Arg} {result : R} {added : Cache Ty R}
    (done : (add host handle call result).eval ambient = (.ok added, after)) :
    ambient.Grows after ∧ added.Reachable after.slots := by
  obtain ⟨outcome, inserted⟩ := exists_insert_of_add done
  cases handle with
  | none => exact (Reachable.empty ambient.slots default).insert watch grows inserted
  | some cache => exact (reachable cache rfl).insert watch grows inserted

end DispatchCache.Cache
