import DispatchCache.UserCode
import DispatchCache.Reference.Object

/-! # The reference model

A small runtime for trying dispatch out: types in a registry, objects, and containers
whose reads may run hooks. What hooks do is a parameter, and so is the state that they
keep besides the heap. -/

namespace DispatchCache.Reference

/-- The types a model starts from. -/
structure Model where
  registry : Registry
  /-- The type of plain containers. -/
  scalar : RuntimeType
  /-- The type of references to native integers. -/
  intRef : RuntimeType

/-- A new model takes the next two type numbers. -/
def Model.new (nextId : Nat) : Model × Nat :=
  let (scalar, registry, nextId) := ({} : Registry).getOrCreate nextId "Scalar" .attributes
  let (intRef, registry, nextId) := registry.getOrCreate nextId "IntRef" .nativeRef
  (⟨registry, scalar, intRef⟩, nextId)

structure State (Extra : Type) where
  nextId : Nat
  model : Model
  heap : Heap
  extra : Extra

namespace State

variable {Extra : Type}

def new (extra : Extra) : State Extra :=
  let (model, nextId) := Model.new 1
  { nextId, model, heap := {}, extra }

/-- The type of a name in the model's registry, made on first request. -/
def getOrCreate (name : String) (layout : Layout) : StateM (State Extra) RuntimeType :=
  modifyGet fun state =>
    let (type, registry, nextId) := state.model.registry.getOrCreate state.nextId name layout
    (type, { state with nextId, model := { state.model with registry } })

/-- The class of a name: a type whose instances are objects with attributes. -/
def classNamed (name : String) : StateM (State Extra) RuntimeType := getOrCreate name .attributes

/-- A type of its own that no registry knows. -/
def newType (name : String) (layout : Layout) : StateM (State Extra) RuntimeType :=
  modifyGet fun state =>
    (⟨state.nextId, name, layout⟩, { state with nextId := state.nextId + 1 })

def newContainer (type : RuntimeType) (object : Object) (writable : Bool) :
    StateM (State Extra) Object :=
  modifyGet fun state =>
    let (container, heap) := state.heap.newContainer type object writable
    (container, { state with heap })

/-- A plain container that holds `object`. -/
def newScalar (object : Object) (writable : Bool) : StateM (State Extra) Object := do
  newContainer (← get).model.scalar object writable

/-- A writable reference to a native integer. -/
def newIntRef (value : Int) : StateM (State Extra) Object := do
  let type ← getOrCreate "int" .int
  newContainer (← get).model.intRef (.inst type (.int value)) true

/-- Stores into the cell of a container; false for other objects. -/
def store (target object : Object) : StateM (State Extra) Bool :=
  match target.container? with
  | none => return false
  | some container => do
    modify fun state => { state with heap := state.heap.store container.cell object }
    return true

end State

/-- Why an argument cannot be read. -/
inductive ModelError where
  | fetch (typeName message : String)
  | notAnObject (kind : String)
  /-- Hooks called each other beyond the depth that the host was made for. -/
  | tooDeep
  deriving DecidableEq, Repr

def ModelError.message : ModelError → String
  | .fetch typeName message =>
    "fetch hook on container of type `" ++ typeName ++ "` failed: " ++ message
  | .notAnObject kind => kind ++ " value carries no runtime type and cannot be decontainerized"
  | .tooDeep => "fetch hooks are nested too deeply"

/-- A failure of the hook is reported under the name of the container's type. -/
def ModelError.inType (type : RuntimeType) : ModelError → ModelError
  | .fetch _ message => .fetch type.name message
  | cause => cause

/-- What each hook does with the object it is given. -/
abbrev Hooks (Extra R : Type) :=
  Nat → Object → UserCode (State Extra) Value R ModelError Object

section Reading

variable {Extra R : Type} (hooks : Hooks Extra R)

/-- Reads a container: the stored object goes through the hook, if there is one. -/
def Container.fetch (container : Container) : UserCode (State Extra) Value R ModelError Object :=
  .look fun state =>
    let current := state.heap.read container.cell
    match container.hook with
    | none => .done (.ok current)
    | some hook => hooks hook current

/-- Takes one container off; other objects come back as they are. -/
def Object.decontainerize (object : Object) : UserCode (State Extra) Value R ModelError Object :=
  match object.container? with
  | none => .done (.ok object)
  | some container => (container.fetch hooks).mapError (.inType object.type)

def Value.decontainerize : Value → UserCode (State Extra) Value R ModelError Object
  | .object held => held.decontainerize hooks
  | value => .done (.error (.notAnObject value.kindName))

def runtime : Runtime (State Extra) Value Object RuntimeType R ModelError where
  isNativeStr _ := Value.isNativeStr
  isNativeInt _ := Value.isNativeInt
  isNativeNum _ := Value.isNativeNum
  ownType _ value := value.object?.map Object.type
  isWritable _ := Value.isWritable
  typeOf _ := Object.type
  isTypeObject _ := Object.isTypeObject
  isNativeRef := RuntimeType.isNativeRef
  code := Value.decontainerize hooks

/-- The model as a host for user code up to `depth` levels deep. -/
def host (depth : Nat) : Host (State Extra) Value Object RuntimeType R ModelError :=
  (runtime hooks).host .tooDeep depth

end Reading

end DispatchCache.Reference
