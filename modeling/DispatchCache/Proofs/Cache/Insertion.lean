import DispatchCache.Proofs.Fingerprint.Agreement
import DispatchCache.Cache
import Mathlib.Algebra.GroupWithZero.Nat
import Mathlib.Tactic.SplitIfs
import Mathlib.Tactic.Tauto

/-! # One insertion

What filing one result under a fingerprint does to each part of a cache. Entries are only
ever appended, to the bucket of the fingerprint and only when the outcome is `stored`, so an
answer that a cache gives is given for good. -/

namespace DispatchCache.Cache

variable {Ty R : Type}

@[simp] theorem zeroArity_empty (policy : InsertPolicy) :
    (empty policy : Cache Ty R).zeroArity = none := rfl

@[simp] theorem policy_empty (policy : InsertPolicy) :
    (empty policy : Cache Ty R).policy = policy := rfl

@[simp] theorem zeroArity_setZeroArity (cache : Cache Ty R) (result : R) :
    (cache.setZeroArity result).zeroArity = some result := rfl

@[simp] theorem policy_setZeroArity (cache : Cache Ty R) (result : R) :
    (cache.setZeroArity result).policy = cache.policy := rfl

@[simp] theorem bucket_setZeroArity (cache : Cache Ty R) (result : R) (arity : Nat) :
    (cache.setZeroArity result).bucket arity = cache.bucket arity := by
  cases arity <;> rfl

/-- The slot counts as one, and the rest are the lengths of the buckets. -/
theorem len_eq (cache : Cache Ty R) :
    cache.len = cache.zeroArity.toList.length +
      ((List.range maxArity).map fun n => cache.bucketLen (n + 1)).sum := by
  have lengths : cache.buckets.toList.map List.length =
      (List.range maxArity).map fun n => cache.bucketLen (n + 1) := by
    apply List.ext_getElem
    · simp
    · intro n _ _
      simp [bucketLen, bucket, show n < maxArity by simp_all]
  rw [len, List.length_flatten, lengths]

@[simp] theorem isFull_empty (policy : InsertPolicy) (arity : Nat) :
    (empty policy : Cache Ty R).isFull arity = false := by
  simp [isFull, bucketLen, maxPerArity]

theorem isFull_iff (cache : Cache Ty R) (arity : Nat) :
    cache.isFull arity = true ↔ maxPerArity ≤ (cache.bucket arity).length := decide_eq_true_iff

variable [DecidableEq Ty]

theorem get_empty (policy : InsertPolicy) (print : Fingerprint Ty) :
    (empty policy : Cache Ty R).get print = none := by
  simp [get]

theorem get_eq_none_iff (cache : Cache Ty R) (print : Fingerprint Ty) :
    cache.get print = none ↔
      ∀ entry ∈ cache.bucket print.arity, entry.fingerprint.agrees print = false := by
  simp [get, List.find?_eq_none]

theorem get_of_unset (cache : Cache Ty R) {print : Fingerprint Ty}
    (unset : print.isCacheable = false) : cache.get print = none := by
  rw [get_eq_none_iff]
  exact fun entry _ => (Fingerprint.agrees_of_unset unset entry.fingerprint).2

/-- Without a bucket of its arity a fingerprint finds nothing. -/
theorem get_of_outside (cache : Cache Ty R) {print : Fingerprint Ty}
    (outside : ¬ (0 < print.arity ∧ print.arity ≤ maxArity)) : cache.get print = none := by
  have nothing : cache.bucket print.arity = [] := by
    cases arity : print.arity with
    | zero => rfl
    | succ n => simp [bucket, show ¬ n < maxArity by omega]
  rw [get, nothing]
  rfl

/-- An answer comes from an entry whose fingerprint agrees. -/
theorem exists_entry_of_get {cache : Cache Ty R} {print : Fingerprint Ty} {result : R}
    (h : cache.get print = some result) :
    ∃ entry ∈ cache.bucket print.arity,
      entry.fingerprint.agrees print = true ∧ entry.result = result := by
  obtain ⟨entry, found, rfl⟩ := Option.map_eq_some_iff.mp h
  have agrees := List.find?_some found
  exact ⟨entry, List.mem_of_find?_eq_some found, agrees, rfl⟩

/-- The ways an insertion can go, each with what decided it. -/
inductive Insertion (cache : Cache Ty R) (print : Fingerprint Ty) (result : R) :
    InsertOutcome × Cache Ty R → Prop where
  | zeroArity (zero : print.arity = 0) :
      Insertion cache print result (.zeroArity, cache.setZeroArity result)
  | wide (wide : maxArity < print.arity) :
      Insertion cache print result (.dropped .tooManyArguments, cache)
  | full (pos : 0 < print.arity) (le : print.arity ≤ maxArity)
      (full : cache.isFull print.arity = true) :
      Insertion cache print result (.dropped .bucketFull, cache)
  | duplicate (pos : 0 < print.arity) (le : print.arity ≤ maxArity)
      (room : cache.isFull print.arity = false) (skip : cache.policy = .skipDuplicates)
      (known : cache.get print ≠ none) :
      Insertion cache print result (.duplicate, cache)
  | stored (pos : 0 < print.arity) (le : print.arity ≤ maxArity)
      (room : cache.isFull print.arity = false)
      (fresh : cache.policy = .skipDuplicates → cache.get print = none) :
      Insertion cache print result
        (.stored, cache.setBucket print.arity (cache.bucket print.arity ++ [⟨print, result⟩]))

/-- What each outcome tells about the fingerprint and the bucket it was filed in. -/
structure Truthful (policy : InsertPolicy) (held : List (Entry Ty R)) (print : Fingerprint Ty)
    (outcome : InsertOutcome) : Prop where
  zeroArity : outcome = .zeroArity ↔ print.arity = 0
  wide : outcome = .dropped .tooManyArguments ↔ maxArity < print.arity
  full : outcome = .dropped .bucketFull ↔
    (0 < print.arity ∧ print.arity ≤ maxArity) ∧ maxPerArity ≤ held.length
  duplicate : outcome = .duplicate ↔
    (0 < print.arity ∧ print.arity ≤ maxArity) ∧ held.length < maxPerArity ∧
      policy = .skipDuplicates ∧ ∃ entry ∈ held, entry.fingerprint.agrees print = true
  stored : outcome = .stored ↔
    (0 < print.arity ∧ print.arity ≤ maxArity) ∧ held.length < maxPerArity ∧
      ¬ (policy = .skipDuplicates ∧ ∃ entry ∈ held, entry.fingerprint.agrees print = true)

section Insertion

variable (cache : Cache Ty R) (print : Fingerprint Ty) (result : R)

theorem insertion : Insertion cache print result (cache.insertFingerprint print result) := by
  have known : (cache.bucket print.arity).any (fun entry => entry.fingerprint.agrees print) = true ↔
      cache.get print ≠ none := by simp [get_eq_none_iff]
  simp only [insertFingerprint, known]
  split_ifs with zero wide full skip
  · exact .zeroArity zero
  · exact .wide wide
  · exact .full (by omega) (by omega) full
  · exact .duplicate (by omega) (by omega) (by simpa using full) skip.1 skip.2
  · exact .stored (by omega) (by omega) (by simpa using full) (by tauto)

theorem insertFingerprint_of_wide (wide : maxArity < print.arity) :
    cache.insertFingerprint print result = (.dropped .tooManyArguments, cache) := by
  rw [insertFingerprint, if_neg (by omega), if_pos wide]

variable {cache print} in
/-- A full bucket drops any fingerprint of its arity. -/
theorem insertFingerprint_of_full (full : cache.isFull print.arity = true)
    (le : print.arity ≤ maxArity) (result : R) :
    cache.insertFingerprint print result = (.dropped .bucketFull, cache) := by
  have pos : print.arity ≠ 0 := by
    intro zero
    rw [zero] at full
    cases full
  have narrow : ¬ maxArity < print.arity := by omega
  simp only [insertFingerprint, pos, narrow, full, if_true, if_false]

/-- Each outcome says what the insertion found, and says it whenever it found that. -/
theorem truthful_insertFingerprint :
    Truthful cache.policy (cache.bucket print.arity) print
      (cache.insertFingerprint print result).1 := by
  have h := insertion cache print result
  have room_iff : cache.isFull print.arity = false ↔
      (cache.bucket print.arity).length < maxPerArity := by
    rw [← Bool.not_eq_true, isFull_iff, Nat.not_le]
  have known_iff : cache.get print ≠ none ↔
      ∃ entry ∈ cache.bucket print.arity, entry.fingerprint.agrees print = true := by
    simp [get_eq_none_iff]
  generalize cache.insertFingerprint print result = after at h ⊢
  cases h with
  | zeroArity zero => constructor <;> simp [zero]
  | wide wide =>
    have outside : print.arity ≠ 0 ∧ ¬ print.arity ≤ maxArity := by omega
    constructor <;> simp [wide, outside]
  | full pos le full =>
    rw [isFull_iff] at full
    have inside : print.arity ≠ 0 ∧ ¬ maxArity < print.arity := by omega
    constructor <;> simp [pos, le, full, inside, Nat.not_lt.mpr full]
  | duplicate pos le room skip known =>
    rw [room_iff] at room
    rw [known_iff] at known
    have inside : print.arity ≠ 0 ∧ ¬ maxArity < print.arity := by omega
    constructor <;> simp only [pos, le, room, skip, known, inside, Nat.not_le.mpr room] <;> simp
  | stored pos le room fresh =>
    rw [room_iff] at room
    have new : ¬ (cache.policy = .skipDuplicates ∧
        ∃ entry ∈ cache.bucket print.arity, entry.fingerprint.agrees print = true) :=
      fun both => known_iff.mpr both.2 (fresh both.1)
    have inside : print.arity ≠ 0 ∧ ¬ maxArity < print.arity := by omega
    constructor <;> simp only [pos, le, room, new, inside, Nat.not_le.mpr room] <;> simp

/-- The slot is overwritten by each result for no arguments, and by nothing else. -/
theorem zeroArity_insertFingerprint :
    (cache.insertFingerprint print result).2.zeroArity =
      if print.arity = 0 then some result else cache.zeroArity := by
  have h := insertion cache print result
  generalize cache.insertFingerprint print result = after at h ⊢
  cases h with
  | zeroArity zero => simp [zero]
  | wide wide => simp [show print.arity ≠ 0 by omega]
  | full pos le full => simp [show print.arity ≠ 0 by omega]
  | duplicate pos le room skip known => simp [show print.arity ≠ 0 by omega]
  | stored pos le room fresh => simp [show print.arity ≠ 0 by omega]

@[simp] theorem policy_insertFingerprint :
    (cache.insertFingerprint print result).2.policy = cache.policy := by
  have h := insertion cache print result
  generalize cache.insertFingerprint print result = after at h ⊢
  cases h <;> simp

/-- A stored entry goes to the end of its bucket. All else leaves every bucket as it is. -/
theorem bucket_insertFingerprint (arity : Nat) :
    (cache.insertFingerprint print result).2.bucket arity =
      if (cache.insertFingerprint print result).1 = .stored ∧ arity = print.arity then
        cache.bucket arity ++ [⟨print, result⟩]
      else cache.bucket arity := by
  have h := insertion cache print result
  generalize cache.insertFingerprint print result = after at h ⊢
  cases h with
  | zeroArity zero => simp
  | wide wide => simp
  | full pos le full => simp
  | duplicate pos le room skip known => simp
  | stored pos le room fresh =>
    rw [bucket_setBucket _ _ pos le]
    by_cases same : arity = print.arity
    · simp [same]
    · simp [same]

/-- Each stored entry counts, and the slot counts once it is set. -/
theorem len_insertFingerprint :
    (cache.insertFingerprint print result).2.len = cache.len +
      (if (cache.insertFingerprint print result).1 = .stored then 1 else 0) +
      (if (cache.insertFingerprint print result).1 = .zeroArity ∧ cache.zeroArity = none then 1
        else 0) := by
  have h := insertion cache print result
  generalize cache.insertFingerprint print result = after at h ⊢
  cases h with
  | zeroArity zero =>
    cases slot : cache.zeroArity with
    | none => simp [len_eq, slot, bucketLen, Nat.add_comm]
    | some old => simp [len_eq, slot, bucketLen]
  | wide wide => simp
  | full pos le full => simp
  | duplicate pos le room skip known => simp
  | stored pos le room fresh =>
    rw [if_pos rfl, if_neg fun both => nomatch both.1, Nat.add_zero]
    have grown : ∀ n, (cache.setBucket print.arity
        (cache.bucket print.arity ++ [⟨print, result⟩])).bucketLen n =
          cache.bucketLen n + if n = print.arity then 1 else 0 := by
      intro n
      rw [bucketLen, bucket_setBucket _ _ pos le]
      split_ifs with same
      · simp [same, bucketLen]
      · rfl
    unfold maxArity at le
    simp only [len_eq, zeroArity_setBucket, grown, maxArity, List.range_succ, List.range_zero,
      List.nil_append, List.cons_append, List.map_cons, List.map_nil, List.sum_cons, List.sum_nil]
    split_ifs <;> omega

/-- What a cache answers it goes on answering; a stored result is the answer for all that
agrees with its fingerprint and had none. -/
theorem get_insertFingerprint (other : Fingerprint Ty) :
    (cache.insertFingerprint print result).2.get other =
      (cache.get other).or
        (if (cache.insertFingerprint print result).1 = .stored ∧ print.agrees other = true then
          some result
        else none) := by
  rw [get, bucket_insertFingerprint]
  by_cases here : (cache.insertFingerprint print result).1 = .stored ∧ other.arity = print.arity
  · rw [if_pos here, List.find?_append, Option.map_or, ← get]
    by_cases agrees : print.agrees other = true <;> simp [here.1, agrees]
  · rw [if_neg here, ← get]
    have none : ¬ ((cache.insertFingerprint print result).1 = .stored ∧
        print.agrees other = true) :=
      fun both => here ⟨both.1, (Fingerprint.arity_eq_of_agrees both.2).symm⟩
    rw [if_neg none, Option.or_none]

end Insertion

end DispatchCache.Cache
