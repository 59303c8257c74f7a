import DispatchCache.Proofs.Cache.Given

/-! # Contents told without tokens

Tokens are numbered as slots are made. So what is filed for the same arguments can differ in its
tokens, when the slots were made in another order. Told by the types that own the slots, it is the
same. -/

namespace DispatchCache

variable {Ty R : Type}

/-- What a key stands for. A token of no slot stands for nothing. -/
def TypeKey.told (table : SlotTable Ty) : TypeKey Ty → Option (View Ty)
  | .nativeInt => some .int
  | .nativeNum => some .num
  | .nativeStr => some .str
  | .object ty => some (.plain ty false)
  | .typeObject ty => some (.plain ty true)
  | .writableObject slot => (table.owner? slot).map (.writable · false)
  | .writableTypeObject slot => (table.owner? slot).map (.writable · true)
  | .unset => some .unknown

def Fingerprint.told (table : SlotTable Ty) (print : Fingerprint Ty) : List (Option (View Ty)) :=
  print.keys.map (TypeKey.told table)

/-- The slot of a cache, and its buckets in order. -/
def Cache.told (table : SlotTable Ty) (cache : Cache Ty R) :
    Option R × List (List (List (Option (View Ty)) × R)) :=
  (cache.zeroArity, (List.range maxArity).map fun n =>
    (cache.bucket (n + 1)).map fun entry => (entry.fingerprint.told table, entry.result))

variable [DecidableEq Ty] {table later : SlotTable Ty}

theorem SlotTable.owner?_key {ty : Ty} {kind : SlotKind} (made : table.isMade ty kind = true) :
    table.owner? (table.key ty kind) = some ty := by
  simp only [isMade, List.contains_iff_mem] at made
  simp [owner?, key, List.getElem?_idxOf made]

/-- A key that was given out stands for the view that it was given for. -/
theorem View.told_key {view : View Ty} (keyed : view.Keyed table) :
    (view.key table).told table = some view := by
  cases view with
  | writable ty isType =>
    have owner := SlotTable.owner?_key (keyed ty _ rfl)
    cases isType
    · exact congrArg (Option.map (View.writable · false)) owner
    · exact congrArg (Option.map (View.writable · true)) owner
  | plain ty isType => cases isType <;> rfl
  | _ => rfl

theorem View.told_keys {views : List (View Ty)} (keyed : ∀ view ∈ views, view.Keyed table) :
    (⟨views.map (View.key table)⟩ : Fingerprint Ty).told table = views.map some := by
  rw [Fingerprint.told, List.map_map]
  exact List.map_congr_left fun view member => View.told_key (keyed view member)

namespace Cache

/-- A new cache has room, and nothing in it is a duplicate. -/
theorem insertFingerprint_empty (policy : InsertPolicy) (print : Fingerprint Ty) (result : R) :
    (empty policy : Cache Ty R).insertFingerprint print result =
      if print.arity = 0 then (.zeroArity, (empty policy).setZeroArity result)
      else if maxArity < print.arity then (.dropped .tooManyArguments, empty policy)
      else (.stored, (empty policy).setBucket print.arity [⟨print, result⟩]) := by
  simp [insertFingerprint]

omit [DecidableEq Ty] in
theorem told_setBucket_empty (policy : InsertPolicy) (table : SlotTable Ty)
    {print : Fingerprint Ty} (result : R) (pos : 0 < print.arity) (le : print.arity ≤ maxArity) :
    ((empty policy : Cache Ty R).setBucket print.arity [⟨print, result⟩]).told table =
      (none, (List.range maxArity).map fun n =>
        if n + 1 = print.arity then [(print.told table, result)] else []) := by
  simp only [told, zeroArity_setBucket, zeroArity_empty, bucket_setBucket _ _ pos le, bucket_empty,
    Prod.mk.injEq, true_and]
  apply List.map_congr_left
  intro n _
  split_ifs <;> rfl

/-- What a new cache holds after an insertion depends on what the keys stand for. -/
theorem told_insertFingerprint_empty (policy : InsertPolicy) {print print' : Fingerprint Ty}
    (same : print.told table = print'.told later) (result : R) :
    ((empty policy : Cache Ty R).insertFingerprint print result).1 =
        ((empty policy).insertFingerprint print' result).1 ∧
      ((empty policy : Cache Ty R).insertFingerprint print result).2.told table =
        ((empty policy).insertFingerprint print' result).2.told later := by
  have arity : print.arity = print'.arity := by
    simpa [Fingerprint.told, Fingerprint.arity] using congrArg List.length same
  simp only [insertFingerprint_empty, arity]
  split_ifs with zero wide
  · refine ⟨rfl, ?_⟩
    simp only [told, bucket_setZeroArity, bucket_empty]
    rfl
  · refine ⟨rfl, ?_⟩
    simp only [told, bucket_empty]
    rfl
  · refine ⟨rfl, ?_⟩
    rw [← arity, told_setBucket_empty policy table result (by omega) (by omega), arity,
      told_setBucket_empty policy later result (by omega) (by omega), same]

end Cache

end DispatchCache
