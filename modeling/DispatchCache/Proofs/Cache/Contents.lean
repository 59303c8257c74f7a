import DispatchCache.Proofs.Cache.Insertion
import Mathlib.Data.List.Induction

/-! # What a cache holds after a run of insertions

The contents of a new cache in closed form, from the calls that were filed alone: the slot
has the last result for no arguments, and a bucket has the first calls of its arity, up to
its room, without those that the policy leaves out. -/

namespace DispatchCache

variable {Ty R : Type} [DecidableEq Ty]

/-- The calls that agree with no call before them, where `earlier` came first of all. -/
def firstsAfter (earlier : List (Entry Ty R)) : List (Entry Ty R) → List (Entry Ty R)
  | [] => []
  | call :: calls =>
    if earlier.any fun before => before.fingerprint.agrees call.fingerprint then
      firstsAfter (earlier ++ [call]) calls
    else call :: firstsAfter (earlier ++ [call]) calls

theorem firstsAfter_concat (earlier calls : List (Entry Ty R)) (call : Entry Ty R) :
    firstsAfter earlier (calls ++ [call]) = firstsAfter earlier calls ++
      if (earlier ++ calls).any fun before => before.fingerprint.agrees call.fingerprint then []
      else [call] := by
  induction calls generalizing earlier with
  | nil => simp [firstsAfter]
  | cons first calls ih =>
    simp only [List.cons_append, firstsAfter, ih, List.append_assoc, List.nil_append]
    split_ifs <;> rfl

omit [DecidableEq Ty] in
/-- The calls of one arity, in order. -/
def callsOf (calls : List (Entry Ty R)) (arity : Nat) : List (Entry Ty R) :=
  calls.filter fun call => call.fingerprint.arity = arity

omit [DecidableEq Ty] in
theorem callsOf_concat (calls : List (Entry Ty R)) (call : Entry Ty R) (arity : Nat) :
    callsOf (calls ++ [call]) arity =
      callsOf calls arity ++ if call.fingerprint.arity = arity then [call] else [] := by
  rw [callsOf, List.filter_append, ← callsOf]
  by_cases same : call.fingerprint.arity = arity <;> simp [same]

namespace InsertPolicy

/-- The calls that a bucket without bounds would keep. -/
def kept : InsertPolicy → List (Entry Ty R) → List (Entry Ty R)
  | .allowDuplicates, calls => calls
  | .skipDuplicates, calls => firstsAfter [] calls

/-- Whether a call that comes after `calls` is kept. -/
def keeps : InsertPolicy → List (Entry Ty R) → Entry Ty R → Bool
  | .allowDuplicates, _, _ => true
  | .skipDuplicates, calls, call =>
    !calls.any fun before => before.fingerprint.agrees call.fingerprint

theorem keeps_eq_false_iff (policy : InsertPolicy) (calls : List (Entry Ty R))
    (call : Entry Ty R) :
    policy.keeps calls call = false ↔ policy = .skipDuplicates ∧
      ∃ before ∈ calls, before.fingerprint.agrees call.fingerprint = true := by
  cases policy <;> simp [keeps]

theorem kept_concat (policy : InsertPolicy) (calls : List (Entry Ty R)) (call : Entry Ty R) :
    policy.kept (calls ++ [call]) =
      policy.kept calls ++ if policy.keeps calls call then [call] else [] := by
  cases policy with
  | allowDuplicates => simp [kept, keeps]
  | skipDuplicates =>
    rw [kept, firstsAfter_concat, List.nil_append, ← kept]
    cases known : calls.any fun before => before.fingerprint.agrees call.fingerprint <;>
      simp [keeps, known]

theorem kept_subset (policy : InsertPolicy) (calls : List (Entry Ty R)) :
    policy.kept calls ⊆ calls := by
  induction calls using List.reverseRecOn with
  | nil => cases policy <;> simp [kept, firstsAfter]
  | append_singleton calls last ih =>
    rw [policy.kept_concat]
    apply List.append_subset.mpr
    constructor
    · exact List.subset_append_of_subset_left _ ih
    · split_ifs <;> simp

/-- Each call that could agree with something has an agreeing one among those kept. -/
theorem exists_kept (policy : InsertPolicy) (calls : List (Entry Ty R)) :
    ∀ call ∈ calls, call.fingerprint.isCacheable = true →
      ∃ first ∈ policy.kept calls, first.fingerprint.agrees call.fingerprint = true := by
  induction calls using List.reverseRecOn with
  | nil => simp
  | append_singleton calls last ih =>
    intro call member cacheable
    rw [policy.kept_concat]
    rcases List.mem_append.mp member with member | member
    · obtain ⟨first, kept, agrees⟩ := ih call member cacheable
      exact ⟨first, List.mem_append_left _ kept, agrees⟩
    · obtain rfl : call = last := List.mem_singleton.mp member
      cases keeps : policy.keeps calls call with
      | true => exact ⟨call, by simp, (Fingerprint.agrees_self_iff _).mpr cacheable⟩
      | false =>
        obtain ⟨-, before, earlier, agrees⟩ := (policy.keeps_eq_false_iff calls call).mp keeps
        obtain ⟨first, kept, first_agrees⟩ :=
          ih before earlier (Fingerprint.isCacheable_of_agrees agrees)
        exact ⟨first, List.mem_append_left _ kept, Fingerprint.agrees_trans first_agrees agrees⟩

/-- A repetition shows among the calls that were kept. Agreement is not reflexive, but what
agrees with the new call agrees with itself. -/
theorem keeps_kept (policy : InsertPolicy) (calls : List (Entry Ty R)) (call : Entry Ty R) :
    policy.keeps (policy.kept calls) call = policy.keeps calls call := by
  rw [← Bool.not_inj_iff, Bool.eq_iff_iff, Bool.not_eq_true', Bool.not_eq_true',
    keeps_eq_false_iff, keeps_eq_false_iff]
  apply and_congr_right
  rintro -
  constructor
  · rintro ⟨before, kept, agrees⟩
    exact ⟨before, policy.kept_subset calls kept, agrees⟩
  · rintro ⟨before, earlier, agrees⟩
    obtain ⟨first, kept, first_agrees⟩ :=
      policy.exists_kept calls before earlier (Fingerprint.isCacheable_of_agrees agrees)
    exact ⟨first, kept, Fingerprint.agrees_trans first_agrees agrees⟩

/-- What a bucket has after `calls`: the first of those that the policy keeps. -/
def holds (policy : InsertPolicy) (calls : List (Entry Ty R)) : List (Entry Ty R) :=
  (policy.kept calls).take maxPerArity

/-- A bucket with room takes what the policy keeps of the next call, and a full one nothing. -/
theorem holds_concat (policy : InsertPolicy) (calls : List (Entry Ty R)) (call : Entry Ty R) :
    policy.holds (calls ++ [call]) = policy.holds calls ++
      if (policy.holds calls).length < maxPerArity ∧ policy.keeps (policy.holds calls) call then
        [call]
      else [] := by
  rw [holds, kept_concat, holds, List.length_take]
  by_cases room : (policy.kept calls).length < maxPerArity
  · have fits : min maxPerArity (policy.kept calls).length < maxPerArity := by omega
    rw [List.take_of_length_le (Nat.le_of_lt room), policy.keeps_kept]
    simp only [fits, true_and]
    apply List.take_of_length_le
    split_ifs <;> simp <;> omega
  · have full : ¬ min maxPerArity (policy.kept calls).length < maxPerArity := by omega
    rw [List.take_append_of_le_length (Nat.le_of_not_lt room), if_neg fun both => full both.1,
      List.append_nil]

end InsertPolicy

/-- The closed form of a bucket, which is empty outside 1 to `maxArity`. -/
def contents (policy : InsertPolicy) (calls : List (Entry Ty R)) (arity : Nat) :
    List (Entry Ty R) :=
  if 0 < arity ∧ arity ≤ maxArity then policy.holds (callsOf calls arity) else []

namespace Cache

/-- Files the results of `calls` one after the other. -/
def insertAll (cache : Cache Ty R) (calls : List (Entry Ty R)) : Cache Ty R :=
  calls.foldl (fun cache call => (cache.insertFingerprint call.fingerprint call.result).2) cache

theorem insertAll_concat (cache : Cache Ty R) (calls : List (Entry Ty R)) (call : Entry Ty R) :
    cache.insertAll (calls ++ [call]) =
      ((cache.insertAll calls).insertFingerprint call.fingerprint call.result).2 := by
  simp [insertAll]

@[simp] theorem policy_insertAll (cache : Cache Ty R) (calls : List (Entry Ty R)) :
    (cache.insertAll calls).policy = cache.policy := by
  induction calls using List.reverseRecOn with
  | nil => rfl
  | append_singleton calls call ih => rw [insertAll_concat, policy_insertFingerprint, ih]

/-- The last result for no arguments is in the slot, and before the first one what was there. -/
theorem zeroArity_insertAll (cache : Cache Ty R) (calls : List (Entry Ty R)) :
    (cache.insertAll calls).zeroArity =
      ((callsOf calls 0).getLast?.map Entry.result).or cache.zeroArity := by
  induction calls using List.reverseRecOn with
  | nil => rfl
  | append_singleton calls call ih =>
    rw [insertAll_concat, zeroArity_insertFingerprint, callsOf_concat, ih]
    split_ifs <;> simp

theorem zeroArity_insertAll_empty (policy : InsertPolicy) (calls : List (Entry Ty R)) :
    ((empty policy).insertAll calls).zeroArity = (callsOf calls 0).getLast?.map Entry.result := by
  rw [zeroArity_insertAll, zeroArity_empty, Option.or_none]

/-- An answer outlives every run of insertions. -/
theorem get_insertAll_of_known {cache : Cache Ty R} {print : Fingerprint Ty} {result : R}
    (known : cache.get print = some result) (calls : List (Entry Ty R)) :
    (cache.insertAll calls).get print = some result := by
  induction calls using List.reverseRecOn with
  | nil => exact known
  | append_singleton calls call ih =>
    rw [insertAll_concat, get_insertFingerprint, ih, Option.some_or]

theorem bucket_insertAll_empty (policy : InsertPolicy) (calls : List (Entry Ty R)) (arity : Nat) :
    ((empty policy).insertAll calls).bucket arity = contents policy calls arity := by
  induction calls using List.reverseRecOn generalizing arity with
  | nil =>
    rw [insertAll, List.foldl_nil, bucket_empty]
    cases policy <;>
      simp [contents, callsOf, InsertPolicy.holds, InsertPolicy.kept, firstsAfter]
  | append_singleton calls call ih =>
    have stored := (truthful_insertFingerprint ((empty policy).insertAll calls) call.fingerprint
      call.result).stored
    rw [ih, policy_insertAll, policy_empty, ← policy.keeps_eq_false_iff,
      Bool.not_eq_false] at stored
    rw [insertAll_concat, bucket_insertFingerprint, ih]
    simp only [stored, contents, callsOf_concat]
    by_cases same : arity = call.fingerprint.arity
    · subst same
      by_cases range : 0 < call.fingerprint.arity ∧ call.fingerprint.arity ≤ maxArity
      · simp only [range, and_self, if_true, true_and, and_true, InsertPolicy.holds_concat]
        split_ifs <;> simp
      · simp [range]
    · simp [same, Ne.symm same]

/-- Calls that are too wide leave no trace. -/
theorem insertAll_narrow (cache : Cache Ty R) (calls : List (Entry Ty R)) :
    cache.insertAll (calls.filter fun call => call.fingerprint.arity ≤ maxArity) =
      cache.insertAll calls := by
  induction calls using List.reverseRecOn with
  | nil => rfl
  | append_singleton calls call ih =>
    rw [List.filter_append, insertAll_concat]
    by_cases le : call.fingerprint.arity ≤ maxArity
    · simp [le, insertAll_concat, ih]
    · have wide : maxArity < call.fingerprint.arity := by omega
      simp [le, ih, insertFingerprint_of_wide _ _ _ wide]

theorem length_contents_le (policy : InsertPolicy) (calls : List (Entry Ty R)) (arity : Nat) :
    (contents policy calls arity).length ≤ maxPerArity := by
  rw [contents]
  split_ifs
  · exact List.length_take_le _ _
  · simp

/-- A new cache after any run of insertions, and what it answers to the next one. Its length
counts the slot on top of the buckets. -/
theorem insertAll_empty (policy : InsertPolicy) (calls : List (Entry Ty R)) :
    let cache := (empty policy).insertAll calls
    cache.policy = policy ∧
    cache.zeroArity = (callsOf calls 0).getLast?.map Entry.result ∧
    (∀ arity, cache.bucket arity = contents policy calls arity ∧
      (contents policy calls arity).length ≤ maxPerArity) ∧
    cache = (empty policy).insertAll
      (calls.filter fun call => call.fingerprint.arity ≤ maxArity) ∧
    (∀ print result, Truthful policy (contents policy calls print.arity) print
      (cache.insertFingerprint print result).1) ∧
    (∀ print, cache.get print = ((contents policy calls print.arity).find? fun entry =>
      entry.fingerprint.agrees print).map Entry.result) ∧
    cache.len = (if callsOf calls 0 = [] then 0 else 1) +
      ((List.range maxArity).map fun n => (contents policy calls (n + 1)).length).sum := by
  intro cache
  have policy_eq : cache.policy = policy := policy_insertAll _ _
  have bucket_eq : ∀ arity, cache.bucket arity = contents policy calls arity :=
    bucket_insertAll_empty policy calls
  have zeroArity_eq := zeroArity_insertAll_empty policy calls
  refine ⟨policy_eq, zeroArity_eq, fun arity => ⟨bucket_eq arity, length_contents_le _ _ _⟩,
    (insertAll_narrow _ _).symm, fun print result => ?_, fun print => ?_, ?_⟩
  · rw [← bucket_eq, ← policy_eq]
    exact truthful_insertFingerprint cache print result
  · rw [get, bucket_eq]
  · rw [len_eq, zeroArity_eq]
    congr 1
    · cases h : callsOf calls 0 <;> simp [List.getLast?_cons]
    · simp only [bucketLen, bucket_eq]

/-- The slot is part of the length, so the buckets alone do not make it up. -/
theorem len_ne_sum_bucketLen : ¬ ∀ (policy : InsertPolicy) (calls : List (Entry Nat String)),
    ((empty policy).insertAll calls).len = ((List.range maxArity).map fun n =>
      ((empty policy).insertAll calls).bucketLen (n + 1)).sum := by
  intro all
  have counted := all .allowDuplicates [⟨⟨[]⟩, "nullary"⟩]
  revert counted
  decide

end Cache

end DispatchCache
