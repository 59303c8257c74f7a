import DispatchCache.Proofs.Cache.Contents
import DispatchCache.Proofs.Cache.Reachable
import DispatchCache.Declared

/-! # Reading back what was filed

A result that goes to a bucket is found under its fingerprint at once, unless an older one is, and
what is found then is found for good. A result for no arguments goes to the slot. Looking up a call
without arguments reads the slot, but looking up a fingerprint reads buckets only. So the
fingerprint without keys is a miss, also when a result was filed under it. -/

namespace DispatchCache.Cache

variable {World Arg Val Ty R Err : Type} [DecidableEq Ty]
variable (cache : Cache Ty R) (print : Fingerprint Ty) (result : R)

/-- A stored result is the answer for its own fingerprint, unless there was one. -/
theorem get_self_of_stored (cacheable : print.isCacheable = true)
    (stored : (cache.insertFingerprint print result).1 = .stored) :
    (cache.insertFingerprint print result).2.get print = some ((cache.get print).getD result) := by
  have itself : print.agrees print = true := (Fingerprint.agrees_self_iff print).mpr cacheable
  rw [get_insertFingerprint, if_pos ⟨stored, itself⟩]
  cases cache.get print with
  | none => rfl
  | some old => rfl

/-- The slot keeps a result until the next one for no arguments. -/
theorem zeroArity_after_filing (zero : print.arity = 0) (later : List (Entry Ty R)) :
    ((cache.insertFingerprint print result).2.insertAll later).zeroArity =
      some (((callsOf later 0).getLast?.map Entry.result).getD result) := by
  rw [zeroArity_insertAll, zeroArity_insertFingerprint, if_pos zero]
  cases (callsOf later 0).getLast?.map Entry.result with
  | none => rfl
  | some last => rfl

/-- A result that was filed under a fingerprint with all keys set, in a bucket or in the slot. It is
read back under the fingerprint, at once and after any further insertions, exactly if it went to a
bucket. What is read is what was there before, or else the result. From the slot it is read back by
calls without arguments, until there is another result for them, and never under the fingerprint. -/
theorem get_after_filing (cacheable : print.isCacheable = true)
    (filed : (cache.insertFingerprint print result).1 = .stored ∨
      (cache.insertFingerprint print result).1 = .zeroArity)
    (later : List (Entry Ty R)) (host : Host World Arg Val Ty R Err) :
    let after := (cache.insertFingerprint print result).2.insertAll later
    ((after.get print).isSome = true ↔ (cache.insertFingerprint print result).1 = .stored) ∧
    ((cache.insertFingerprint print result).1 = .stored →
      after.get print = some ((cache.get print).getD result)) ∧
    ((cache.insertFingerprint print result).1 = .zeroArity →
      cache.get print = none ∧ after.get print = none ∧
      ∀ (call : Capture Arg) (start : Ambient World Ty R), call.shape maxArity = .zeroArity →
        (after.lookup host call).eval start =
          (.ok (some (((callsOf later 0).getLast?.map Entry.result).getD result)), start)) := by
  intro after
  have inBucket : (cache.insertFingerprint print result).1 = .stored →
      after.get print = some ((cache.get print).getD result) := by
    intro stored
    exact get_insertAll_of_known (cache.get_self_of_stored print result cacheable stored) later
  have arity_zero : (cache.insertFingerprint print result).1 = .zeroArity → print.arity = 0 :=
    (cache.truthful_insertFingerprint print result).zeroArity.mp
  have unseen : (cache.insertFingerprint print result).1 = .zeroArity →
      ∀ other : Cache Ty R, other.get print = none := by
    intro slot other
    have zero := arity_zero slot
    exact other.get_of_outside (by omega)
  refine ⟨⟨fun found => filed.resolve_right fun slot => ?_, fun stored => ?_⟩, inBucket,
    fun slot => ⟨unseen slot cache, unseen slot after, fun call start shape => ?_⟩⟩
  · rw [unseen slot after] at found
    cases found
  · rw [inBucket stored]
    rfl
  · rw [eval_lookup_of_zeroArity after host start shape,
      cache.zeroArity_after_filing print result (arity_zero slot)]

/-- A pair of arguments keeps its first result while the bucket fills up. A result for no arguments
is missed under its fingerprint, and found by a call until the next one takes its place. -/
theorem pair_and_nullary_after_filing :
    let host : Host Declared.World Declared.Arg Declared.Val Nat String _ := Declared.host []
    let start : Ambient Declared.World Nat String := { world := [] }
    let pair : Fingerprint Nat := ⟨[.nativeInt, .nativeStr]⟩
    let later : List (Entry Nat String) := List.replicate 20 ⟨pair, "slow"⟩ ++ [⟨⟨[]⟩, "last"⟩]
    let cache := (empty .allowDuplicates).setZeroArity "first"
    let filed := (cache.insertFingerprint ⟨[]⟩ "second").2
    ((cache.insertFingerprint pair "fast").2.insertAll later).get pair = some "fast" ∧
      filed.get ⟨[]⟩ = none ∧ (filed.insertAll later).get ⟨[]⟩ = none ∧
      (filed.lookup host ⟨[], []⟩).eval start = (.ok (some "second"), start) ∧
      ((filed.insertAll later).lookup host ⟨[], []⟩).eval start = (.ok (some "last"), start) := by
  intro host start pair later cache filed
  have stored : (cache.insertFingerprint pair "fast").1 = .stored := by decide
  obtain ⟨-, read, -⟩ := cache.get_after_filing pair "fast" rfl (.inl stored) later host
  obtain ⟨-, -, atOnce⟩ := cache.get_after_filing ⟨[]⟩ "second" rfl (.inr rfl) [] host
  obtain ⟨-, -, atLast⟩ := cache.get_after_filing ⟨[]⟩ "second" rfl (.inr rfl) later host
  obtain ⟨-, missed, found⟩ := atOnce rfl
  obtain ⟨-, missed_later, found_later⟩ := atLast rfl
  exact ⟨read stored, missed, missed_later, found ⟨[], []⟩ start rfl,
    found_later ⟨[], []⟩ start rfl⟩

/-- Filing under the fingerprint without keys writes the slot, and looking it up does not read the
slot. -/
theorem slot_unseen_by_get :
    ¬ ∀ (table : SlotTable Nat) (cache : Cache Nat String), cache.Reachable table →
      ∀ print result, print.isCacheable = true →
        ((cache.insertFingerprint print result).1 = .stored ∨
          (cache.insertFingerprint print result).1 = .zeroArity) →
        let filed := (cache.insertFingerprint print result).2
        (filed.get print).isSome = true ∧
          (cache.get print = none → filed.get print = some result) ∧
          ∀ later, ((filed.insertAll later).get print).isSome = true := by
  intro law
  have new : (empty .allowDuplicates : Cache Nat String).Reachable {} := .empty {} _
  obtain ⟨hit, -, -⟩ := law {} _ new ⟨[]⟩ "nullary" rfl (.inr rfl)
  cases hit

end DispatchCache.Cache
