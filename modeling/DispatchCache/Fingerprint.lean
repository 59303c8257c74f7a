import DispatchCache.TypeKey

/-! # Fingerprints

The type keys of a call's positional arguments, in argument order. -/

namespace DispatchCache

structure Fingerprint (Ty : Type) where
  keys : List (TypeKey Ty)
  deriving DecidableEq, Repr

namespace Fingerprint

variable {Ty : Type}

def arity (fingerprint : Fingerprint Ty) : Nat := fingerprint.keys.length

/-- False when some argument could not be classified; such a fingerprint agrees with none. -/
def isCacheable (fingerprint : Fingerprint Ty) : Bool := fingerprint.keys.all TypeKey.isSet

/-- A copy of each key, in order. -/
def copy (fingerprint : Fingerprint Ty) : Fingerprint Ty := ⟨fingerprint.keys.map TypeKey.copy⟩

/-- Two key lists agree when they have the same length and agree place by place. -/
def agreeAll [DecidableEq Ty] : List (TypeKey Ty) → List (TypeKey Ty) → Bool
  | [], [] => true
  | a :: as, b :: bs => a.agrees b && agreeAll as bs
  | _, _ => false

def agrees [DecidableEq Ty] (a b : Fingerprint Ty) : Bool := agreeAll a.keys b.keys

@[simp] theorem copy_eq (fingerprint : Fingerprint Ty) : fingerprint.copy = fingerprint := by
  have same : (TypeKey.copy : TypeKey Ty → TypeKey Ty) = id := funext TypeKey.copy_eq
  rw [copy, same, List.map_id]

end Fingerprint

end DispatchCache
