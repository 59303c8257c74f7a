import DispatchCache.Proofs.Classification.Reading
import DispatchCache.Reference.Model
import Mathlib.Data.List.Forall2

/-! # How values of the reference model look

Without a hook, reading a value takes at most one container off, looks at the heap and changes
nothing. So the view of the value is told by its type, its body and the cell it is bound to. -/

namespace DispatchCache.Reference

namespace Object

/-- What reading takes out of an object: what its container holds, or the object itself. -/
def content (object : Object) (heap : Heap) : Object :=
  object.container?.elim object fun container => heap.read container.cell

def view (object : Object) (heap : Heap) : View RuntimeType :=
  let held := object.content heap
  if !(Value.object object).isWritable then .plain held.type held.isTypeObject
  else if object.type.isNativeRef then .plain object.type false
  else .writable held.type held.isTypeObject

/-- An object that is no container is seen as what it is. -/
theorem view_of_plain {object : Object} (plain : object.container? = none) (heap : Heap) :
    object.view heap = .plain object.type object.isTypeObject := by
  simp [view, content, Value.isWritable, Value.object?, plain]

/-- A writable container is seen as a binding of what it holds, unless it is a native
reference. -/
theorem view_of_writable {object : Object} {container : Container}
    (bound : object.container? = some container) (writable : container.writable = true)
    (heap : Heap) :
    object.view heap =
      if object.type.isNativeRef then .plain object.type false
      else .writable (heap.read container.cell).type (heap.read container.cell).isTypeObject := by
  simp [view, content, Value.isWritable, Value.object?, bound, writable]

end Object

namespace Value

/-- The hook that runs when a value is read. -/
def hook? (value : Value) : Option Nat :=
  (value.object?.bind Object.container?).bind Container.hook

def view (heap : Heap) : Value → View RuntimeType
  | .str _ | .strSlot _ => .str
  | .int _ | .intSlot _ => .int
  | .num _ | .numSlot _ => .num
  | .object held => held.view heap
  | .foreign => .unknown

end Value

section Host

variable {Extra R : Type} (hooks : Hooks Extra R) (depth : Nat)

theorem eval_decontainerize {object : Object} (unhooked : (Value.object object).hook? = none)
    (ambient : Ambient (State Extra) RuntimeType R) :
    ((host hooks (depth + 1)).decontainerize (.object object)).eval ambient =
      (.ok (object.content ambient.world.heap), ambient) := by
  change ((object.decontainerize hooks).run (host hooks depth)).eval ambient = _
  unfold Object.decontainerize Object.content
  cases bound : object.container? with
  | none => rfl
  | some container =>
    have unhooked : container.hook = none := by
      simpa [Value.hook?, Value.object?, bound] using unhooked
    simp only [Container.fetch, unhooked]
    rfl

/-- A host that reads at all shows the views of the values without hooks. -/
theorem shownIn_host {value : Value} (unhooked : value.hook? = none) (state : State Extra) :
    (host hooks (depth + 1)).ShownIn state value (value.view state.heap) := by
  cases value with
  | object object =>
    constructor
    case seen =>
      rintro ambient rfl
      exact Host.view_of_read _ rfl rfl (eval_decontainerize hooks depth unhooked ambient)
    case untouched =>
      rintro ambient rfl
      exact congrArg Prod.snd (eval_decontainerize hooks depth unhooked ambient)
  | _ =>
    constructor
    case seen => exact fun _ _ => rfl
    case untouched => exact fun _ _ => rfl

theorem forall₂_shownIn {values : List Value} (unhooked : ∀ value ∈ values, value.hook? = none)
    (state : State Extra) :
    List.Forall₂ ((host hooks (depth + 1)).ShownIn state) values
      (values.map (Value.view state.heap)) := by
  rw [List.forall₂_map_right_iff, List.forall₂_same]
  exact fun value member => shownIn_host hooks depth (unhooked value member) state

end Host

end DispatchCache.Reference
