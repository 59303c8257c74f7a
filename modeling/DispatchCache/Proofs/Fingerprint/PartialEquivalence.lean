import DispatchCache.Proofs.Cache.Insertion

/-! # Agreement is a partial equivalence

It relates fingerprints of one arity whose keys are all set, and each of those to itself and to its
copies. The others are related to nothing, which is what makes them uncacheable: whatever a cache
holds, no entry of it agrees with a fingerprint that has an unset key. -/

namespace DispatchCache.Fingerprint

variable {Ty R : Type} [DecidableEq Ty]

/-- Agreement of fingerprints of any length is symmetric and transitive. A fingerprint agrees with
itself, or with its copy, exactly if it is cacheable. What agrees has the same arity and is
cacheable, copies do what their originals do, and a fingerprint with an unset key is found in no
cache. -/
theorem agreement_isPartialEquivalence :
    (∀ a b : Fingerprint Ty, a.agrees b = true → b.agrees a = true) ∧
    (∀ a b c : Fingerprint Ty, a.agrees b = true → b.agrees c = true → a.agrees c = true) ∧
    (∀ a : Fingerprint Ty, (a.agrees a = true ↔ a.isCacheable = true) ∧
      (a.agrees a.copy = true ↔ a.isCacheable = true)) ∧
    (∀ a b : Fingerprint Ty, a.agrees b = true →
      a.arity = b.arity ∧ a.isCacheable = true ∧ b.isCacheable = true) ∧
    (∀ a b : Fingerprint Ty, a.copy.agrees b = a.agrees b ∧ a.agrees b.copy = a.agrees b) ∧
    (∀ a : Fingerprint Ty, a.copy.arity = a.arity ∧ a.copy.isCacheable = a.isCacheable) ∧
    ∀ (cache : Cache Ty R) (a : Fingerprint Ty), .unset ∈ a.keys → cache.get a = none := by
  have symm : ∀ a b : Fingerprint Ty, a.agrees b = true → b.agrees a = true :=
    fun a b agrees => agrees_comm a b ▸ agrees
  refine ⟨symm, ?trans, ?self, ?related, ?copied, ?kept, ?missed⟩
  case trans => exact fun a b c ab bc => agrees_trans ab bc
  case self =>
    intro a
    rw [copy_eq]
    exact ⟨a.agrees_self_iff, a.agrees_self_iff⟩
  case related =>
    intro a b agrees
    exact ⟨arity_eq_of_agrees agrees, isCacheable_of_agrees agrees,
      isCacheable_of_agrees (symm a b agrees)⟩
  case copied =>
    intro a b
    rw [copy_eq, copy_eq]
    exact ⟨rfl, rfl⟩
  case kept =>
    intro a
    rw [copy_eq]
    exact ⟨rfl, rfl⟩
  case missed => exact fun cache a unset => cache.get_of_unset (isCacheable_eq_false_iff.mpr unset)

/-- Copies of an object and a container agree both ways. An argument of unknown kind takes up room
and is not found by its own fingerprint. -/
theorem copies_agree_and_unset_missed :
    let known : Fingerprint Nat := ⟨[.object 0, .writableObject ⟨.inst, 0⟩]⟩
    let unknown : Fingerprint Nat := ⟨[.nativeInt, .unset]⟩
    let cache := ((Cache.empty .allowDuplicates).insertFingerprint unknown "never").2
    (known.copy.agrees known = true ∧ known.agrees known.copy.copy = true ∧
        known.arity = known.copy.arity) ∧
      unknown.agrees unknown.copy = false ∧ cache.bucketLen 2 = 1 ∧ cache.get unknown = none := by
  intro known unknown cache
  obtain ⟨symm, trans, self, related, -, -, missed⟩ :=
    @agreement_isPartialEquivalence Nat String _
  have copied : known.agrees known.copy = true := (self known).2.mpr rfl
  have again : known.copy.agrees known.copy.copy = true := (self known.copy).2.mpr rfl
  have apart : unknown.agrees unknown.copy = false :=
    Bool.eq_false_iff.mpr (mt (self unknown).2.mp Bool.false_ne_true)
  exact ⟨⟨symm _ _ copied, trans _ _ _ copied again, (related _ _ copied).1⟩, apart, by decide,
    missed cache unknown (.tail _ (.head _))⟩

end DispatchCache.Fingerprint
