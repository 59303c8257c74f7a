import DispatchCache.Reference.Object
import DispatchCache.Decimal.Shortest
import DispatchCache.Text.Shown

/-! # How values of the reference model are shown

A container shows the object it holds at the moment. Containers that hold one another
stop at the depth given, which the number of cells bounds where they do not. -/

namespace DispatchCache.Reference

open Text

def Layout.shown : Layout → String
  | .attributes => "Opaque"
  | .int => "Int"
  | .num => "Num"
  | .str => "Str"
  | .nativeRef => "NativeRef"

def RuntimeType.shown (type : RuntimeType) : String :=
  shownCall "Stable" [type.label, type.layout.shown]

def Payload.shown : Payload → String
  | .empty => "Empty"
  | .int value => shownCall "Int" [toString value]
  | .num value => shownCall "Num" [Decimal.text value]
  | .str value => shownCall "Str" [quoted value]

def Object.shown (heap : Heap) : Nat → Object → String
  | 0, _ => ".."
  | depth + 1, object =>
    let body := match object.body with
      | .inst payload => shownCall "Instance" [payload.shown]
      | .typeObject => "TypeObject"
      | .container container =>
        shownCall "Container"
          [shownRecord "Container"
            [("value", (heap.read container.cell).shown heap depth),
             ("rw", toString container.writable),
             ("fetch_hook", toString container.hook.isSome)]]
    shownRecord "Object" [("stable", object.type.shown), ("body", body)]

/-- A depth that shows every object whose containers do not hold one another. -/
def Heap.depth (heap : Heap) : Nat := heap.cells.size + 1

def Value.shown (heap : Heap) : Value → String
  | .int value => shownCall "Int" [toString value]
  | .num value => shownCall "Num" [Decimal.text value]
  | .str value => shownCall "Str" [quoted value]
  | .intSlot value => shownCall "IntArg" [toString value]
  | .numSlot value => shownCall "NumArg" [Decimal.text value]
  | .strSlot value => shownCall "StrArg" [quoted value]
  | .object held => shownCall "Object" [held.shown heap heap.depth]
  | .foreign => "Foreign"

end DispatchCache.Reference
