import DispatchCache.Proofs.Cache.Calls
import DispatchCache.Proofs.Classification.Reading
import Mathlib.Data.List.Find

/-! # Caches with keys that were given out

A key of a slot is given out by making the slot. A cache starts without keys, and those that are
inserted were read before, so all keys in it were given out. Whatever slots are made later, in
whatever order, such a cache goes on giving the same answers for the same views. -/

namespace DispatchCache

variable {World Arg Val Ty R Err : Type} [DecidableEq Ty]
variable {table later later' : SlotTable Ty}

namespace SlotTable

variable {ty : Ty} {kind : SlotKind}

/-- A slot that is made later has its token behind all that were given out before. -/
theorem length_le_token (grown : table.made <+: later.made)
    (unmade : table.isMade ty kind = false) :
    table.made.length ≤ (later.key ty kind).token := by
  obtain ⟨added, whole⟩ := grown
  have absent : (ty, kind) ∉ table.made := by
    simpa [isMade] using unmade
  rw [key, ← whole, List.idxOf_append_of_notMem absent]
  exact Nat.le_add_right _ _

/-- A token that was given out is that of a slot in all later tables or in none. -/
theorem token_key_iff (grown : table.made <+: later.made) (grown' : table.made <+: later'.made)
    {token : Nat} (given : token < table.made.length) (ty : Ty) (kind : SlotKind) :
    token = (later.key ty kind).token ↔ token = (later'.key ty kind).token := by
  cases made : table.isMade ty kind with
  | true => rw [SlotTable.key_of_prefix grown made, SlotTable.key_of_prefix grown' made]
  | false =>
    have behind := length_le_token grown made
    have behind' := length_le_token grown' made
    omega

end SlotTable

omit [DecidableEq Ty] in
/-- The slot that the key came out of, if it came out of one, is in the table. -/
def TypeKey.GivenIn (table : SlotTable Ty) : TypeKey Ty → Prop
  | .writableObject slot | .writableTypeObject slot => slot.token < table.made.length
  | _ => True

omit [DecidableEq Ty] in
theorem TypeKey.GivenIn.of_grown {key : TypeKey Ty} (given : key.GivenIn table)
    (grown : table.made <+: later.made) : key.GivenIn later := by
  cases key with
  | writableObject slot => exact Nat.lt_of_lt_of_le given grown.length_le
  | writableTypeObject slot => exact Nat.lt_of_lt_of_le given grown.length_le
  | _ => trivial

/-- A key is given out by making the slot of its view. -/
theorem View.givenIn_key {view : View Ty} (keyed : view.Keyed table) :
    (view.key table).GivenIn table := by
  cases view with
  | writable ty isType =>
    have made := keyed ty _ rfl
    simp only [SlotTable.isMade, List.contains_iff_mem] at made
    cases isType
    · exact List.idxOf_lt_length_of_mem made
    · exact List.idxOf_lt_length_of_mem made
  | plain ty isType => cases isType <;> trivial
  | _ => trivial

theorem View.agrees_key_of_given {key : TypeKey Ty} (given : key.GivenIn table)
    (grown : table.made <+: later.made) (grown' : table.made <+: later'.made) (view : View Ty) :
    key.agrees (view.key later) = key.agrees (view.key later') := by
  cases view with
  | writable ty isType =>
    cases key with
    | writableObject slot =>
      cases isType with
      | false =>
        rw [Bool.eq_iff_iff]
        simpa [View.key, TypeKey.agrees, ContainerKey.agrees] using
          SlotTable.token_key_iff grown grown' given ty .inst
      | true => rfl
    | writableTypeObject slot =>
      cases isType with
      | false => rfl
      | true =>
        rw [Bool.eq_iff_iff]
        simpa [View.key, TypeKey.agrees, ContainerKey.agrees] using
          SlotTable.token_key_iff grown grown' given ty .typeObject
    | _ => cases isType <;> rfl
  | plain ty isType => cases isType <;> rfl
  | _ => rfl

theorem View.agreeAll_key_of_given {keys : List (TypeKey Ty)}
    (given : ∀ key ∈ keys, key.GivenIn table) (grown : table.made <+: later.made)
    (grown' : table.made <+: later'.made) (views : List (View Ty)) :
    Fingerprint.agreeAll keys (views.map (View.key later)) =
      Fingerprint.agreeAll keys (views.map (View.key later')) := by
  induction keys generalizing views with
  | nil => cases views <;> rfl
  | cons key keys ih =>
    obtain ⟨first, rest⟩ := List.forall_mem_cons.mp given
    cases views with
    | nil => rfl
    | cons view views =>
      simp only [List.map_cons, Fingerprint.agreeAll, ih rest,
        view.agrees_key_of_given first grown grown']

/-- The keys of arguments that were seen are given out. -/
theorem Host.Sees.givenIn {host : Host World Arg Val Ty R Err} {args : List Arg}
    {views : List (View Ty)} {start stop : Ambient World Ty R}
    (sees : host.Sees start args views stop) :
    ∀ key ∈ views.map (View.key stop.slots), key.GivenIn stop.slots := by
  obtain ⟨-, -, keyed⟩ := sees.eval_extractKeys
  exact List.forall_mem_map.mpr fun view member => View.givenIn_key (keyed view member)

/-- Where reading takes no slot away, all keys of a fingerprint are given out once it is read. -/
theorem givenIn_extract {host : Host World Arg Val Ty R Err} (watch : Watch host)
    (grows : watch.Keeps Ambient.Grows) {args : List Arg} {print : Fingerprint Ty}
    {ambient after : Ambient World Ty R}
    (read : (extract host args).eval ambient = (.ok print, after)) :
    ambient.Grows after ∧ ∀ key ∈ print.keys, key.GivenIn after.slots := by
  obtain ⟨views, sees⟩ := Host.exists_sees_of_extract watch grows read
  rw [sees.eval_extract] at read
  cases read
  exact ⟨sees.grows, sees.givenIn⟩

namespace Cache

omit [DecidableEq Ty] in
/-- All keys of the cache were given out. -/
def GivenIn (table : SlotTable Ty) (cache : Cache Ty R) : Prop :=
  ∀ arity, ∀ entry ∈ cache.bucket arity, ∀ key ∈ entry.fingerprint.keys, key.GivenIn table

omit [DecidableEq Ty] in
theorem givenIn_empty (table : SlotTable Ty) (policy : InsertPolicy) :
    (empty policy : Cache Ty R).GivenIn table := by
  intro arity entry member
  simp at member

variable {cache : Cache Ty R}

omit [DecidableEq Ty] in
theorem GivenIn.of_grown (given : cache.GivenIn table) (grown : table.made <+: later.made) :
    cache.GivenIn later :=
  fun arity entry member key isKey => (given arity entry member key isKey).of_grown grown

theorem GivenIn.insertFingerprint (given : cache.GivenIn table) {print : Fingerprint Ty}
    (keys : ∀ key ∈ print.keys, key.GivenIn table) (result : R) :
    (cache.insertFingerprint print result).2.GivenIn table := by
  intro arity entry member
  rw [bucket_insertFingerprint] at member
  split_ifs at member
  · rcases List.mem_append.mp member with old | new
    · exact given arity entry old
    · obtain rfl := List.mem_singleton.mp new
      exact keys
  · exact given arity entry member

theorem get_key_of_given (given : cache.GivenIn table) (grown : table.made <+: later.made)
    (grown' : table.made <+: later'.made) (views : List (View Ty)) :
    cache.get ⟨views.map (View.key later)⟩ = cache.get ⟨views.map (View.key later')⟩ := by
  have len : (⟨views.map (View.key later)⟩ : Fingerprint Ty).arity =
      (⟨views.map (View.key later')⟩ : Fingerprint Ty).arity := by simp [Fingerprint.arity]
  rw [get, get, len]
  refine congrArg _ (List.find?_congr fun entry member => ?_)
  exact View.agreeAll_key_of_given (given _ entry member) grown grown' views

variable {host : Host World Arg Val Ty R Err} {ambient later : Ambient World Ty R}

/-- Arguments that show the same views before and after slots were made are answered alike. -/
theorem lookup_of_given (given : cache.GivenIn ambient.slots) {call : Capture Arg}
    {views : List (View Ty)}
    (shown : List.Forall₂ (host.ShownIn ambient.world) call.positional views)
    (same : later.world = ambient.world) (grown : ambient.Grows later) :
    ((cache.lookup host call).eval later).1 = ((cache.lookup host call).eval ambient).1 := by
  rcases call.shape_cases with shape | shape | ⟨arity, shape⟩
  · rw [eval_lookup_of_uncacheable cache host _ shape,
      eval_lookup_of_uncacheable cache host _ shape]
  · rw [eval_lookup_of_zeroArity cache host _ shape, eval_lookup_of_zeroArity cache host _ shape]
  · obtain ⟨after, read, -, further, -⟩ := Host.eval_extract_of_shown shown rfl
    obtain ⟨after', read', -, further', -⟩ := Host.eval_extract_of_shown shown same
    rw [eval_lookup_of_read cache shape read, eval_lookup_of_read cache shape read',
      get_key_of_given given (grown.trans further') further views]

end Cache

end DispatchCache
