/-! # Types and registries

A type is told apart by its number; numbers are given out in the order types are made
and are never reused, also across registries. A registry knows types by name. -/

namespace DispatchCache.Reference

/-- How instances of a type are laid out. -/
inductive Layout where
  /-- Objects with attributes. -/
  | attributes
  | int
  | num
  | str
  /-- References to native scalar slots, which are containers by construction. -/
  | nativeRef
  deriving DecidableEq, Repr

structure RuntimeType where
  id : Nat
  name : String
  layout : Layout
  deriving DecidableEq, Repr

def RuntimeType.isNativeRef (type : RuntimeType) : Bool := type.layout = .nativeRef

/-- The name with the number, as types are shown. -/
def RuntimeType.label (type : RuntimeType) : String := type.name ++ "#" ++ toString type.id

/-- Types by name, oldest first. -/
structure Registry where
  types : List RuntimeType := []
  deriving DecidableEq, Repr

namespace Registry

def get? (registry : Registry) (name : String) : Option RuntimeType :=
  registry.types.find? fun type => type.name = name

def len (registry : Registry) : Nat := registry.types.length

/-- The type of a name, made with the next free number on first request. A type keeps the
layout it was made with. -/
def getOrCreate (registry : Registry) (nextId : Nat) (name : String) (layout : Layout) :
    RuntimeType × Registry × Nat :=
  match registry.get? name with
  | some type => (type, registry, nextId)
  | none =>
    let type : RuntimeType := ⟨nextId, name, layout⟩
    (type, ⟨registry.types ++ [type]⟩, nextId + 1)

end Registry

end DispatchCache.Reference
