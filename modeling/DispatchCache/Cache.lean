import DispatchCache.Fingerprint

/-! # The cache of one call site

A slot for calls without arguments and one bucket for each arity from 1 to
`maxArity`. A bucket is scanned in the order its entries came in. Nothing is ever
evicted: once a bucket holds `maxPerArity` entries, further inserts are dropped. -/

namespace DispatchCache

/-- The widest positional call that has a bucket. -/
def maxArity : Nat := 4

/-- The number of entries one bucket may hold. -/
def maxPerArity : Nat := 16

/-- What happens to a fingerprint that is in its bucket already. -/
inductive InsertPolicy where
  /-- It is appended again and takes up room. -/
  | allowDuplicates
  /-- The bucket stays as it is. -/
  | skipDuplicates
  deriving DecidableEq, Repr

instance : Inhabited InsertPolicy := ⟨.allowDuplicates⟩

inductive DropReason where
  | namedArguments
  | tooManyArguments
  | bucketFull
  deriving DecidableEq, Repr

inductive InsertOutcome where
  | stored
  | zeroArity
  | duplicate
  | dropped (reason : DropReason)
  deriving DecidableEq, Repr

structure Entry (Ty R : Type) where
  fingerprint : Fingerprint Ty
  result : R
  deriving DecidableEq

structure Cache (Ty R : Type) where
  zeroArity : Option R
  buckets : Vector (List (Entry Ty R)) maxArity
  policy : InsertPolicy
  deriving DecidableEq

namespace Cache

variable {Ty R : Type}

def empty (policy : InsertPolicy) : Cache Ty R where
  zeroArity := none
  buckets := Vector.replicate maxArity []
  policy := policy

/-- The entries for one arity; there are none outside 1 to `maxArity`. -/
def bucket (cache : Cache Ty R) : Nat → List (Entry Ty R)
  | 0 => []
  | n + 1 => cache.buckets[n]?.getD []

def setBucket (cache : Cache Ty R) : Nat → List (Entry Ty R) → Cache Ty R
  | 0, _ => cache
  | n + 1, entries => { cache with buckets := cache.buckets.setIfInBounds n entries }

def bucketLen (cache : Cache Ty R) (arity : Nat) : Nat := (cache.bucket arity).length

/-- The entries of all buckets, the slot for no arguments counted as one. -/
def len (cache : Cache Ty R) : Nat :=
  cache.zeroArity.toList.length + cache.buckets.toList.flatten.length

def isEmpty (cache : Cache Ty R) : Bool := cache.len == 0

def setZeroArity (cache : Cache Ty R) (result : R) : Cache Ty R :=
  { cache with zeroArity := some result }

def isFull (cache : Cache Ty R) (arity : Nat) : Bool := maxPerArity ≤ cache.bucketLen arity

/-- The first entry of the bucket whose fingerprint agrees. Only buckets are read: the
fingerprint without keys finds nothing. -/
def get [DecidableEq Ty] (cache : Cache Ty R) (fingerprint : Fingerprint Ty) : Option R :=
  ((cache.bucket fingerprint.arity).find? fun entry => entry.fingerprint.agrees fingerprint).map
    Entry.result

/-- Files a result under a fingerprint. Room is looked for before duplicates are. -/
def insertFingerprint [DecidableEq Ty] (cache : Cache Ty R) (fingerprint : Fingerprint Ty)
    (result : R) : InsertOutcome × Cache Ty R :=
  let arity := fingerprint.arity
  let entries := cache.bucket arity
  if arity = 0 then
    (.zeroArity, cache.setZeroArity result)
  else if maxArity < arity then
    (.dropped .tooManyArguments, cache)
  else if cache.isFull arity then
    (.dropped .bucketFull, cache)
  else if cache.policy = .skipDuplicates ∧
      entries.any (fun entry => entry.fingerprint.agrees fingerprint) then
    (.duplicate, cache)
  else
    (.stored, cache.setBucket arity (entries ++ [⟨fingerprint, result⟩]))

@[simp] theorem bucket_empty (policy : InsertPolicy) (arity : Nat) :
    (empty policy : Cache Ty R).bucket arity = [] := by
  cases arity with
  | zero => rfl
  | succ n =>
    simp only [bucket, empty]
    by_cases h : n < maxArity <;> simp [h]

theorem bucket_setBucket (cache : Cache Ty R) {arity : Nat} (entries : List (Entry Ty R))
    (pos : 0 < arity) (le : arity ≤ maxArity) (other : Nat) :
    (cache.setBucket arity entries).bucket other =
      if other = arity then entries else cache.bucket other := by
  cases arity with
  | zero => omega
  | succ n =>
    cases other with
    | zero => simp [bucket]
    | succ m =>
      simp only [bucket, setBucket, Vector.getElem?_setIfInBounds]
      by_cases h : n = m
      · subst h; simp [show n < maxArity by omega]
      · simp [h, show ¬ m = n from fun e => h e.symm]

@[simp] theorem policy_setBucket (cache : Cache Ty R) (arity : Nat) (entries : List (Entry Ty R)) :
    (cache.setBucket arity entries).policy = cache.policy := by
  cases arity <;> rfl

@[simp] theorem zeroArity_setBucket (cache : Cache Ty R) (arity : Nat)
    (entries : List (Entry Ty R)) :
    (cache.setBucket arity entries).zeroArity = cache.zeroArity := by
  cases arity <;> rfl

end Cache

end DispatchCache
