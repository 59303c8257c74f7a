import DispatchCache.Slots

/-! # Type keys

One key per positional argument. Keys agree by the identity of the type or slot
they carry; the key of an argument that could not be classified agrees with
nothing, not even with itself. -/

namespace DispatchCache

inductive TypeKey (Ty : Type) where
  | nativeInt
  | nativeNum
  | nativeStr
  /-- An instance of the type, or a native reference, which is keyed by its own type. -/
  | object (ty : Ty)
  /-- The type itself, passed as a value. -/
  | typeObject (ty : Ty)
  | writableObject (slot : ContainerKey)
  | writableTypeObject (slot : ContainerKey)
  | unset
  deriving DecidableEq, Repr

namespace TypeKey

variable {Ty : Type}

def isSet : TypeKey Ty → Bool
  | .unset => false
  | _ => true

def agrees [DecidableEq Ty] : TypeKey Ty → TypeKey Ty → Bool
  | .nativeInt, .nativeInt => true
  | .nativeNum, .nativeNum => true
  | .nativeStr, .nativeStr => true
  | .object a, .object b => a == b
  | .typeObject a, .typeObject b => a == b
  | .writableObject a, .writableObject b => a.agrees b
  | .writableTypeObject a, .writableTypeObject b => a.agrees b
  | _, _ => false

/-- A copy of a key, variant by variant. It shares the type or the slot key of the original. -/
def copy : TypeKey Ty → TypeKey Ty
  | .nativeInt => .nativeInt
  | .nativeNum => .nativeNum
  | .nativeStr => .nativeStr
  | .object ty => .object ty
  | .typeObject ty => .typeObject ty
  | .writableObject slot => .writableObject slot
  | .writableTypeObject slot => .writableTypeObject slot
  | .unset => .unset

@[simp] theorem copy_eq (key : TypeKey Ty) : key.copy = key := by
  cases key <;> rfl

theorem agrees_self_iff [DecidableEq Ty] (key : TypeKey Ty) :
    key.agrees key = true ↔ key.isSet = true := by
  cases key <;> simp [agrees, isSet, ContainerKey.agrees]

end TypeKey

end DispatchCache
