import DispatchCache.Reference.Registry
import Mathlib.Data.List.Basic
import Mathlib.Tactic.SplitIfs

/-! # The types of a registry

A type that is asked for by name is the one that the registry knows by that name from then on. Only
a name that is new to the registry makes it grow, by one type. -/

namespace DispatchCache.Reference.Registry

variable {registry : Registry} {name : String} {type : RuntimeType}

theorem mem_of_get? (known : registry.get? name = some type) : type ∈ registry.types :=
  List.mem_of_find?_eq_some known

theorem name_of_get? (known : registry.get? name = some type) : type.name = name := by
  simpa using List.find?_some known

theorem get?_eq_none_iff :
    registry.get? name = none ↔ name ∉ registry.types.map RuntimeType.name := by
  simp [get?]

theorem getOrCreate_of_known (known : registry.get? name = some type) (nextId : Nat)
    (layout : Layout) : registry.getOrCreate nextId name layout = (type, registry, nextId) := by
  simp only [getOrCreate, known]

theorem getOrCreate_of_unknown (unknown : registry.get? name = none) (nextId : Nat)
    (layout : Layout) : registry.getOrCreate nextId name layout =
      (⟨nextId, name, layout⟩, ⟨registry.types ++ [⟨nextId, name, layout⟩]⟩, nextId + 1) := by
  simp only [getOrCreate, unknown]

variable (registry) (nextId : Nat) (name) (layout : Layout)

/-- A type that is asked for by name has that name, whether it was there or was made. -/
theorem name_getOrCreate : (registry.getOrCreate nextId name layout).1.name = name := by
  cases known : registry.get? name with
  | none => rw [getOrCreate_of_unknown known]
  | some type => rw [getOrCreate_of_known known, name_of_get? known]

theorem get?_getOrCreate (other : String) :
    (registry.getOrCreate nextId name layout).2.1.get? other =
      if other = name then some (registry.getOrCreate nextId name layout).1
      else registry.get? other := by
  cases known : registry.get? name with
  | some type =>
    rw [getOrCreate_of_known known]
    split_ifs with same
    · rw [same, known]
    · rfl
  | none =>
    rw [getOrCreate_of_unknown known, get?, List.find?_append]
    split_ifs with same
    · rw [get?] at known
      simp [same, known]
    · have apart : ¬ name = other := fun same' => same same'.symm
      simp [get?, apart]

theorem len_getOrCreate :
    (registry.getOrCreate nextId name layout).2.1.len =
      registry.len + if registry.get? name = none then 1 else 0 := by
  cases known : registry.get? name with
  | some type => simp [getOrCreate_of_known known]
  | none => simp [getOrCreate_of_unknown known, len]

end DispatchCache.Reference.Registry
