import DispatchCache.Proofs.SharedCache.Serving

/-! # What a cache answers

A fingerprint is answered out of its bucket, and the one without keys out of the slot. Filing a
result keeps all answers but that of the slot, and gives the result where there was none. What
agrees is answered alike, and what agrees with nothing has no answer. -/

namespace DispatchCache.Cache

variable {Ty R : Type} [DecidableEq Ty] (cache : Cache Ty R) {print other : Fingerprint Ty}

theorem answer_empty (policy : InsertPolicy) (print : Fingerprint Ty) :
    (empty policy : Cache Ty R).answer print = none := by
  rw [answer, get_empty, zeroArity_empty, ite_self]

/-- Fingerprints that agree are answered alike. -/
theorem answer_congr (agrees : print.agrees other = true) :
    cache.answer print = cache.answer other := by
  have arity := Fingerprint.arity_eq_of_agrees agrees
  have alike : ∀ entry : Entry Ty R,
      entry.fingerprint.agrees print = entry.fingerprint.agrees other := by
    intro entry
    rw [Bool.eq_iff_iff]
    constructor
    · exact fun first => Fingerprint.agrees_trans first agrees
    · exact fun first =>
        Fingerprint.agrees_trans first (Fingerprint.agrees_comm other print ▸ agrees)
  simp only [answer, get, arity, alike]

theorem answer_of_unset (unset : print.isCacheable = false) : cache.answer print = none := by
  rw [answer, if_neg (Nat.ne_of_gt (Fingerprint.arity_pos_of_unset unset)),
    get_of_unset cache unset]

/-- The slot has the last result for no arguments. A bucket keeps what it answers, and answers a
stored result where it had no answer. -/
theorem answer_insertFingerprint (print : Fingerprint Ty) (result : R) (other : Fingerprint Ty) :
    (cache.insertFingerprint print result).2.answer other =
      if print.arity = 0 ∧ other.arity = 0 then some result
      else (cache.answer other).or
        (if (cache.insertFingerprint print result).1 = .stored ∧ print.agrees other = true then
          some result
        else none) := by
  by_cases zero' : other.arity = 0
  · by_cases zero : print.arity = 0
    · rw [answer, if_pos zero', zeroArity_insertFingerprint, if_pos zero, if_pos ⟨zero, zero'⟩]
    · have apart : ¬ print.agrees other = true :=
        fun agrees => zero ((Fingerprint.arity_eq_of_agrees agrees).trans zero')
      rw [answer, answer, if_pos zero', if_pos zero', zeroArity_insertFingerprint, if_neg zero,
        if_neg fun both => zero both.1, if_neg fun both => apart both.2, Option.or_none]
  · have distinct : ¬ (print.arity = 0 ∧ other.arity = 0) := fun both => zero' both.2
    rw [if_neg distinct, answer, answer, if_neg zero', if_neg zero', get_insertFingerprint]

/-- A result does not show under a fingerprint that does not agree with its own. -/
theorem answer_insertFingerprint_of_apart (result : R) (apart : print.agrees other = false) :
    (cache.insertFingerprint print result).2.answer other = cache.answer other := by
  have distinct : ¬ (print.arity = 0 ∧ other.arity = 0) := by
    rintro ⟨zero, zero'⟩
    rw [(Fingerprint.agrees_iff_of_arity_zero zero).mpr zero'] at apart
    cases apart
  rw [answer_insertFingerprint, if_neg distinct, if_neg (fun both => by simp [apart] at both),
    Option.or_none]

/-- Unless the slot is overwritten, an insertion keeps all answers and gives its own result where
there was none. -/
theorem answer_insertFingerprint_of_vacant (vacant : print.arity = 0 → cache.zeroArity = none)
    (result : R) (other : Fingerprint Ty) :
    (cache.insertFingerprint print result).2.answer other =
      (cache.answer other).or
        (if ((cache.insertFingerprint print result).1 = .stored ∨
            (cache.insertFingerprint print result).1 = .zeroArity) ∧
            print.agrees other = true then some result else none) := by
  have slot := (cache.truthful_insertFingerprint print result).zeroArity
  rw [answer_insertFingerprint]
  by_cases zero : print.arity = 0
  · simp only [Fingerprint.agrees_iff_of_arity_zero zero, slot.mpr zero, zero, true_and]
    by_cases zero' : other.arity = 0
    · simp [answer, zero', vacant zero]
    · simp [zero']
  · simp only [zero, mt slot.mp zero, false_and, or_false, if_false]

/-- Under a fingerprint that agrees, a result is the answer if there was none, as far as there is
room. The slot has it in any case. -/
theorem answer_insertFingerprint_of_agrees (result : R) (agrees : print.agrees other = true)
    (narrow : print.arity ≤ maxArity) :
    (cache.insertFingerprint print result).2.answer other =
      if print.arity = 0 then some result
      else (cache.answer other).or
        (if cache.bucketLen print.arity < maxPerArity then some result else none) := by
  have arity := Fingerprint.arity_eq_of_agrees agrees
  rw [answer_insertFingerprint]
  by_cases zero : print.arity = 0
  · rw [if_pos ⟨zero, arity ▸ zero⟩, if_pos zero]
  · rw [if_neg fun both => zero both.1, if_neg zero, answer, if_neg (arity ▸ zero)]
    have stored := (cache.truthful_insertFingerprint print result).stored
    by_cases room : cache.bucketLen print.arity < maxPerArity
    · by_cases known : (cache.get other).isSome = true
      · rw [Option.or_of_isSome known, Option.or_of_isSome known]
      · have fresh : (cache.insertFingerprint print result).1 = .stored := by
          refine stored.mpr ⟨⟨Nat.pos_of_ne_zero zero, narrow⟩, room, ?_⟩
          rintro ⟨-, entry, member, repeated⟩
          apply known
          rw [get, Option.isSome_map, List.find?_isSome]
          exact ⟨entry, arity ▸ member, Fingerprint.agrees_trans repeated agrees⟩
        rw [if_pos ⟨fresh, agrees⟩, if_pos room]
    · rw [if_neg (fun both => room (stored.mp both.1).2.1), if_neg room]

/-- Filing a result once more leaves all answers as they are. -/
theorem answer_insertFingerprint_twice (result : R) (narrow : print.arity ≤ maxArity)
    (other : Fingerprint Ty) :
    ((cache.insertFingerprint print result).2.insertFingerprint print result).2.answer other =
      (cache.insertFingerprint print result).2.answer other := by
  cases agrees : print.agrees other with
  | false => rw [answer_insertFingerprint_of_apart _ _ agrees]
  | true =>
    by_cases room : cache.bucketLen print.arity < maxPerArity
    · rw [answer_insertFingerprint_of_agrees _ _ agrees narrow,
        answer_insertFingerprint_of_agrees _ _ agrees narrow, if_pos room]
      by_cases zero : print.arity = 0
      · rw [if_pos zero, if_pos zero]
      · rw [if_neg zero, if_neg zero, Option.or_assoc, Option.some_or]
    · have full : cache.isFull print.arity = true := by simpa [isFull] using room
      rw [insertFingerprint_of_full full narrow, insertFingerprint_of_full full narrow]

end DispatchCache.Cache
