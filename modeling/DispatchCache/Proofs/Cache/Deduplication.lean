import DispatchCache.Proofs.Cache.Contents

/-! # Skipping duplicates loses no answer

Two new caches are given the same calls, and one of them skips duplicates. Their buckets drift
apart with the first duplicate and fill up at different times. A call that would be the answer
to a fingerprint is never a duplicate itself, though, and among the calls that are kept it only
moves forward. So whatever the cache with all duplicates answers, the other one answers too. -/

namespace DispatchCache

variable {Ty R : Type} [DecidableEq Ty]

/-- The first call that agrees with a fingerprint is one of its arity. -/
theorem find?_callsOf (calls : List (Entry Ty R)) (print : Fingerprint Ty) :
    ((callsOf calls print.arity).find? fun call => call.fingerprint.agrees print) =
      calls.find? fun call => call.fingerprint.agrees print := by
  rw [callsOf, List.find?_filter]
  congr 1
  ext call
  cases agrees : call.fingerprint.agrees print with
  | false => simp
  | true => simp [Fingerprint.arity_eq_of_agrees agrees]

namespace InsertPolicy

variable (policy : InsertPolicy)

/-- Later calls do not change what is kept of the earlier ones. -/
theorem kept_prefix_append (calls more : List (Entry Ty R)) :
    policy.kept calls <+: policy.kept (calls ++ more) := by
  induction more using List.reverseRecOn with
  | nil => simp
  | append_singleton more last ih =>
    rw [← List.append_assoc, policy.kept_concat]
    exact ih.trans (List.prefix_append _ _)

theorem length_kept_le (calls : List (Entry Ty R)) :
    (policy.kept calls).length ≤ calls.length := by
  induction calls using List.reverseRecOn with
  | nil => cases policy <;> simp [kept, firstsAfter]
  | append_singleton calls last ih =>
    rw [policy.kept_concat, List.length_append, List.length_append]
    apply Nat.add_le_add ih
    split_ifs <;> simp

/-- What is left out is never the first call that agrees: the call before it which it repeats
agrees with all that it agrees with. -/
theorem find?_kept (calls : List (Entry Ty R)) (print : Fingerprint Ty) :
    ((policy.kept calls).find? fun call => call.fingerprint.agrees print) =
      calls.find? fun call => call.fingerprint.agrees print := by
  induction calls using List.reverseRecOn with
  | nil => cases policy <;> rfl
  | append_singleton calls last ih =>
    rw [policy.kept_concat, List.find?_append, List.find?_append, ih]
    cases keeps : policy.keeps calls last with
    | true => rfl
    | false =>
      by_cases agrees : last.fingerprint.agrees print = true
      · obtain ⟨-, before, member, repeated⟩ := (policy.keeps_eq_false_iff calls last).mp keeps
        have found : (calls.find? fun call => call.fingerprint.agrees print).isSome = true :=
          List.find?_isSome.mpr ⟨before, member, Fingerprint.agrees_trans repeated agrees⟩
        rw [Option.or_of_isSome found, Option.or_of_isSome found]
      · simp [agrees]

/-- What is kept of the calls that fit into a bucket is at the front of the bucket. -/
theorem kept_take_prefix_holds (calls : List (Entry Ty R)) :
    policy.kept (calls.take maxPerArity) <+: policy.holds calls := by
  rw [holds, List.prefix_take_iff]
  constructor
  · have whole := policy.kept_prefix_append (calls.take maxPerArity) (calls.drop maxPerArity)
    rwa [List.take_append_drop] at whole
  · exact Nat.le_trans (policy.length_kept_le _) (List.length_take_le _ _)

/-- What a bucket with all duplicates finds, a bucket under any policy finds. -/
theorem find?_holds_of_allowing {calls : List (Entry Ty R)} {print : Fingerprint Ty}
    {first : Entry Ty R}
    (found : ((allowDuplicates.holds calls).find? fun call => call.fingerprint.agrees print) =
      some first) :
    ((policy.holds calls).find? fun call => call.fingerprint.agrees print) = some first := by
  rw [show allowDuplicates.holds calls = calls.take maxPerArity from rfl,
    ← policy.find?_kept] at found
  exact (policy.kept_take_prefix_holds calls).find?_eq_some found

theorem find?_of_holds {calls : List (Entry Ty R)} {print : Fingerprint Ty} {first : Entry Ty R}
    (found : ((policy.holds calls).find? fun call => call.fingerprint.agrees print) = some first) :
    (calls.find? fun call => call.fingerprint.agrees print) = some first := by
  rw [← policy.find?_kept]
  exact (List.take_prefix _ _).find?_eq_some found

/-- Calls that all fit are all looked through, under any policy. -/
theorem find?_holds_of_fit {calls : List (Entry Ty R)} (fit : calls.length ≤ maxPerArity)
    (print : Fingerprint Ty) :
    ((policy.holds calls).find? fun call => call.fingerprint.agrees print) =
      calls.find? fun call => call.fingerprint.agrees print := by
  have short := Nat.le_trans (policy.length_kept_le calls) fit
  rw [holds, List.take_of_length_le short, policy.find?_kept]

theorem length_holds (calls : List (Entry Ty R)) :
    (policy.holds calls).length ≤ (allowDuplicates.holds calls).length := by
  have shorter := policy.length_kept_le calls
  simp only [holds, List.length_take]
  change min maxPerArity (policy.kept calls).length ≤ min maxPerArity calls.length
  omega

end InsertPolicy

namespace Cache

theorem get_insertAll_empty (policy : InsertPolicy) (calls : List (Entry Ty R))
    (print : Fingerprint Ty) :
    ((empty policy).insertAll calls).get print =
      ((contents policy calls print.arity).find? fun entry =>
        entry.fingerprint.agrees print).map Entry.result := by
  rw [get, bucket_insertAll_empty]

/-- Two new caches that are given the same calls, where one skips duplicates: it answers all that
the other one answers, with the same result, its buckets are never longer, and its slot is the
same. As long as the calls of an arity fit into its bucket, both caches answer alike there. What
a cache answers is the result of the first call that agrees, under either policy. -/
theorem insertAll_skipDuplicates (calls : List (Entry Ty R)) :
    let allowing := (empty .allowDuplicates).insertAll calls
    let skipping := (empty .skipDuplicates).insertAll calls
    (∀ print result, allowing.get print = some result → skipping.get print = some result) ∧
    (∀ arity, skipping.bucketLen arity ≤ allowing.bucketLen arity) ∧
    skipping.zeroArity = allowing.zeroArity ∧
    (∀ arity, (callsOf calls arity).length ≤ maxPerArity →
      ∀ print : Fingerprint Ty, print.arity = arity → skipping.get print = allowing.get print) ∧
    ∀ print result, skipping.get print = some result →
      (calls.find? fun call => call.fingerprint.agrees print).map Entry.result = some result := by
  intro allowing skipping
  refine ⟨fun print result answered => ?_, fun arity => ?_, ?_, ?_, fun print result answered => ?_⟩
  · rw [get_insertAll_empty, contents] at answered ⊢
    split_ifs at answered ⊢ with range
    · obtain ⟨first, found, rfl⟩ := Option.map_eq_some_iff.mp answered
      have first_kept := InsertPolicy.skipDuplicates.find?_holds_of_allowing found
      rw [first_kept, Option.map_some]
    · cases answered
  · rw [bucketLen, bucketLen, bucket_insertAll_empty, bucket_insertAll_empty, contents, contents]
    split_ifs
    · exact InsertPolicy.skipDuplicates.length_holds _
    · exact Nat.le_refl _
  · rw [zeroArity_insertAll_empty, zeroArity_insertAll_empty]
  · rintro _ fit print rfl
    rw [get_insertAll_empty, get_insertAll_empty, contents, contents]
    split_ifs
    · rw [InsertPolicy.find?_holds_of_fit _ fit, InsertPolicy.find?_holds_of_fit _ fit]
    · rfl
  · rw [get_insertAll_empty, contents] at answered
    split_ifs at answered with range
    · obtain ⟨first, found, rfl⟩ := Option.map_eq_some_iff.mp answered
      rw [← find?_callsOf, InsertPolicy.skipDuplicates.find?_of_holds found, Option.map_some]
    · cases answered

/-- Repeated calls fill the one cache. The other goes on answering and has room for one more. -/
theorem repeats_crowd_out :
    let integer : Entry Nat String := ⟨⟨[.nativeInt]⟩, "integer"⟩
    let calls := List.replicate 16 integer ++ [⟨⟨[.nativeNum]⟩, "number"⟩]
    let allowing := (empty .allowDuplicates).insertAll calls
    let skipping := (empty .skipDuplicates).insertAll calls
    allowing.get ⟨[.nativeInt]⟩ = some "integer" ∧ skipping.get ⟨[.nativeInt]⟩ = some "integer" ∧
      allowing.get ⟨[.nativeNum]⟩ = none ∧ skipping.get ⟨[.nativeNum]⟩ = some "number" := by
  intro integer calls allowing skipping
  have answered : allowing.get ⟨[.nativeInt]⟩ = some "integer" := by decide +kernel
  have kept := (insertAll_skipDuplicates calls).1 _ _ answered
  exact ⟨answered, kept, by decide +kernel, by decide +kernel⟩

end Cache

end DispatchCache
