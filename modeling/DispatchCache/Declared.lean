import DispatchCache.Cache.Handle

/-! # A host with declared answers

Every argument spells out its own answers, and types are numbers. It shows which questions
the library puts to a host and in which order arguments are read. -/

namespace DispatchCache.Declared

structure Arg where
  id : Int
  isStr : Bool := false
  isInt : Bool := false
  isNum : Bool := false
  writable : Bool := false
  own : Option Nat := none
  /-- The type of the value inside; without one the argument cannot be read. -/
  held : Option Nat := none
  isTypeObject : Bool := false
  deriving DecidableEq, Repr

/-- A value that was read: its type, and whether it is that type itself. -/
structure Val where
  type : Nat
  isTypeObject : Bool
  deriving DecidableEq, Repr

/-- The argument that could not be read. -/
structure Unreadable where
  id : Int
  deriving DecidableEq, Repr

def Unreadable.message (failure : Unreadable) : String :=
  "argument " ++ toString failure.id ++ " cannot be read"

/-- The arguments that were read so far, last first. -/
abbrev World := List Int

def read {R : Type} (arg : Arg) : Run World Nat R Unreadable Val := do
  modify fun ambient => { ambient with world := arg.id :: ambient.world }
  match arg.held with
  | some type => return ⟨type, arg.isTypeObject⟩
  | none => throw ⟨arg.id⟩

/-- The host for a list of types, each of which is a native reference or is not. -/
def host {R : Type} (types : List Bool) : Host World Arg Val Nat R Unreadable where
  isNativeStr _ := Arg.isStr
  isNativeInt _ := Arg.isInt
  isNativeNum _ := Arg.isNum
  ownType _ := Arg.own
  isWritable _ := Arg.writable
  typeOf _ := Val.type
  isTypeObject _ := Val.isTypeObject
  isNativeRef type := types[type]?.getD false
  decontainerize := read

end DispatchCache.Declared
