import DispatchCache.Cache

/-! # A cache that several callers share

The cache behind it is made by the first result that is filed, so an unused shared
cache holds nothing but its policy. -/

namespace DispatchCache

structure SharedCache (Ty R : Type) where
  inner : Option (Cache Ty R)
  policy : InsertPolicy
  deriving DecidableEq

namespace SharedCache

variable {Ty R : Type}

def empty (policy : InsertPolicy) : SharedCache Ty R := ⟨none, policy⟩

def len (shared : SharedCache Ty R) : Nat := shared.inner.elim 0 Cache.len

def isEmpty (shared : SharedCache Ty R) : Bool := shared.len == 0

def zeroArity (shared : SharedCache Ty R) : Option R := shared.inner.bind Cache.zeroArity

def get [DecidableEq Ty] (shared : SharedCache Ty R) (fingerprint : Fingerprint Ty) : Option R :=
  shared.inner.bind (·.get fingerprint)

def isFull (shared : SharedCache Ty R) (arity : Nat) : Bool :=
  shared.inner.elim false (·.isFull arity)

/-- The cache that results are filed in, fresh if none was made yet. -/
def current (shared : SharedCache Ty R) : Cache Ty R :=
  shared.inner.getD (Cache.empty shared.policy)

def insertFingerprint [DecidableEq Ty] (shared : SharedCache Ty R) (fingerprint : Fingerprint Ty)
    (result : R) : InsertOutcome × SharedCache Ty R :=
  let (outcome, cache) := shared.current.insertFingerprint fingerprint result
  (outcome, { shared with inner := some cache })

end SharedCache

end DispatchCache
