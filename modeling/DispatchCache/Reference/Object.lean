import DispatchCache.Reference.Registry

/-! # Values of the reference model

Managed objects have a type. A container is a binding to a cell on the heap: its copies
share the cell, while the hook that runs when it is read belongs to each copy. -/

namespace DispatchCache.Reference

inductive Payload where
  | empty
  | int (value : Int)
  | num (value : Float)
  | str (value : String)

/-- Numbers are compared as numbers: zeros of either sign are equal, and not-a-number
equals nothing. -/
def Payload.same : Payload → Payload → Bool
  | .empty, .empty => true
  | .int a, .int b => a == b
  | .num a, .num b => a == b
  | .str a, .str b => a == b
  | _, _ => false

structure Container where
  cell : Nat
  writable : Bool
  /-- The hook that is run with the stored object whenever the container is read. -/
  hook : Option Nat := none
  deriving DecidableEq, Repr

inductive Body where
  | inst (payload : Payload)
  | typeObject
  | container (container : Container)

structure Object where
  type : RuntimeType
  body : Body

namespace Object

def inst (type : RuntimeType) (payload : Payload) : Object := ⟨type, .inst payload⟩

def typeObject (type : RuntimeType) : Object := ⟨type, .typeObject⟩

def container? (object : Object) : Option Container :=
  match object.body with
  | .container container => some container
  | _ => none

def isTypeObject (object : Object) : Bool :=
  match object.body with
  | .typeObject => true
  | _ => false

/-- A copy of a container that runs `hook` when it is read; other objects stay the same. -/
def withHook (object : Object) (hook : Nat) : Object :=
  match object.body with
  | .container container => { object with body := .container { container with hook := some hook } }
  | _ => object

end Object

/-- What can stand in an argument place. -/
inductive Value where
  | int (value : Int)
  | num (value : Float)
  | str (value : String)
  | intSlot (value : Int)
  | numSlot (value : Float)
  | strSlot (value : String)
  | object (object : Object)
  /-- A value of the host that dispatching knows nothing about. -/
  | foreign

namespace Value

def object? : Value → Option Object
  | .object held => some held
  | _ => none

def kindName : Value → String
  | .int _ => "int"
  | .num _ => "num"
  | .str _ => "str"
  | .intSlot _ => "native int"
  | .numSlot _ => "native num"
  | .strSlot _ => "native str"
  | .object _ => "object"
  | .foreign => "foreign"

def isNativeStr : Value → Bool
  | .str _ | .strSlot _ => true
  | _ => false

def isNativeInt : Value → Bool
  | .int _ | .intSlot _ => true
  | _ => false

def isNativeNum : Value → Bool
  | .num _ | .numSlot _ => true
  | _ => false

def isWritable (value : Value) : Bool :=
  (value.object?.bind Object.container?).elim false Container.writable

end Value

/-- The cells of containers, numbered in order of creation. -/
structure Heap where
  cells : Array Object := #[]

namespace Heap

/-- What a number that no container has reads as. -/
def placeholder : Object := .typeObject ⟨0, "", .attributes⟩

def read (heap : Heap) (cell : Nat) : Object := heap.cells[cell]?.getD placeholder

def store (heap : Heap) (cell : Nat) (object : Object) : Heap :=
  ⟨heap.cells.setIfInBounds cell object⟩

/-- A new container of type `type` that holds `object`. -/
def newContainer (heap : Heap) (type : RuntimeType) (object : Object) (writable : Bool) :
    Object × Heap :=
  (⟨type, .container { cell := heap.cells.size, writable }⟩, ⟨heap.cells.push object⟩)

end Heap

end DispatchCache.Reference
