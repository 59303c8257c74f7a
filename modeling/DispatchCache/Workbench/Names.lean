/-! # Names for things

What a name stands for is what it was bound to last. -/

namespace DispatchCache.Workbench

structure Names (α : Type) where
  bindings : List (String × α) := []

namespace Names

variable {α : Type}

def get? (names : Names α) (name : String) : Option α := names.bindings.lookup name

def bind (names : Names α) (name : String) (thing : α) : Names α :=
  ⟨(name, thing) :: names.bindings.filter (·.1 ≠ name)⟩

end Names

end DispatchCache.Workbench
