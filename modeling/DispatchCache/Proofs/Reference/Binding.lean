import DispatchCache.Proofs.Cache.Separation
import DispatchCache.Proofs.Reference.Reading

/-! # Passing an object by value and in a writable container

A writable container is filed under a slot of what it holds, and so never together with what
is passed by value. The exception are native references. They are containers by construction and
are filed under their own type, so an instance of that very type looks the same. -/

namespace DispatchCache.Reference

/-- Whether an object by value looks like a writable container: the container is a native
reference, and the object is an instance of its very type. -/
def Object.Meets (object container : Object) : Prop :=
  container.type.isNativeRef = true ∧ object.type = container.type ∧ object.isTypeObject = false

variable {Extra R : Type} {hooks : Hooks Extra R} {depth : Nat}

section Views

variable {object container : Object} {binding : Container}
variable (plain : object.container? = none) (bound : container.container? = some binding)
variable (writable : binding.writable = true)

include plain bound writable

theorem meets_of_view_eq {heap : Heap} (same : container.view heap = object.view heap) :
    object.Meets container := by
  rw [Object.view_of_plain plain, Object.view_of_writable bound writable] at same
  split at same
  case isTrue native =>
    obtain ⟨type, isType⟩ := View.plain.inj same
    exact ⟨native, type.symm, isType.symm⟩
  case isFalse => cases same

theorem view_eq_of_meets (meets : object.Meets container) (heap : Heap) :
    container.view heap = object.view heap := by
  obtain ⟨native, type, isType⟩ := meets
  rw [Object.view_of_plain plain, Object.view_of_writable bound writable, if_pos native, type,
    isType]

variable (unhooked : binding.hook = none)

include unhooked

omit writable in
theorem hook?_eq_none :
    (Value.object object).hook? = none ∧ (Value.object container).hook? = none := by
  simp [Value.hook?, Value.object?, plain, bound, unhooked]

/-- By value and in a writable container, an object is filed under keys that never agree. -/
theorem toldApart_of_not_meets (apart : ¬ object.Meets container) :
    (host hooks (depth + 1)).ToldApart (.object object) (.object container) := by
  obtain ⟨free, free'⟩ := hook?_eq_none plain bound unhooked
  intro start start' done done' key key' classified classified'
  rw [Host.eval_classify_of_shown (shownIn_host hooks depth free start.world) rfl] at classified
  rw [Host.eval_classify_of_shown (shownIn_host hooks depth free' start'.world) rfl] at classified'
  cases classified
  cases classified'
  rw [Bool.eq_false_iff]
  intro agrees
  have here := object.view_of_plain plain start.world.heap
  have there := object.view_of_plain plain start'.world.heap
  rw [Value.view, here] at agrees
  exact apart (meets_of_view_eq plain bound writable
    ((View.eq_of_agrees_plain agrees).trans there.symm))

/-- An object that meets the container is classified as the container is. -/
theorem eval_classify_of_meets (meets : object.Meets container)
    (ambient : Ambient (State Extra) RuntimeType R) :
    (classify (host hooks (depth + 1)) (.object object)).eval ambient =
      (classify (host hooks (depth + 1)) (.object container)).eval ambient := by
  obtain ⟨free, free'⟩ := hook?_eq_none plain bound unhooked
  rw [Host.eval_classify_of_shown (shownIn_host hooks depth free ambient.world) rfl,
    Host.eval_classify_of_shown (shownIn_host hooks depth free' ambient.world) rfl]
  simp only [Value.view, view_eq_of_meets plain bound writable meets]

end Views

/-- Calls that are alike except at one place, where the one has an object and the other a writable
container without a hook. Unless the container is a native reference and the object an instance of
its type, no cache mixes them up, whatever the container holds and whenever each of them is read;
and if no hook runs for the other arguments either, both are read, and each of them is answered
after a result was added for the other as it was before. In the case left out the two are read
alike. -/
theorem unmixed_of_writable (hooks : Hooks Extra R) (depth : Nat) {object container : Object}
    {binding : Container} (plain : object.container? = none)
    (bound : container.container? = some binding) (writable : binding.writable = true)
    (unhooked : binding.hook = none) (left right : List Value)
    (narrow : left.length + right.length < maxArity) :
    let host := host hooks (depth + 1)
    let byValue : Capture Value := ⟨left ++ .object object :: right, []⟩
    let inContainer : Capture Value := ⟨left ++ .object container :: right, []⟩
    (¬ object.Meets container →
      byValue.Unmixed host inContainer ∧ inContainer.Unmixed host byValue ∧
      ((∀ value ∈ left ++ right, value.hook? = none) →
        ∀ (ambient : Ambient (State Extra) RuntimeType R) (handle : Option (Cache RuntimeType R)),
          (∀ cache ∈ handle, cache.GivenIn ambient.slots) → ∀ result,
          (∃ added after, (add host handle byValue result).eval ambient = (.ok added, after) ∧
            ((find host (some added) inContainer).eval after).1 =
              ((find host handle inContainer).eval ambient).1) ∧
          ∃ added after, (add host handle inContainer result).eval ambient = (.ok added, after) ∧
            ((find host (some added) byValue).eval after).1 =
              ((find host handle byValue).eval ambient).1)) ∧
    (object.Meets container →
      extract host byValue.positional = extract host inContainer.positional) := by
  intro host byValue inContainer
  have positional : ∀ value : Value,
      (⟨left ++ value :: right, []⟩ : Capture Value).shape maxArity =
        .positional (left.length + (right.length + 1)) := by
    intro value
    have arity : (⟨left ++ value :: right, []⟩ : Capture Value).arity =
        left.length + (right.length + 1) := by
      simp [Capture.arity]
    rw [← arity]
    exact Capture.shape_of_nameless rfl (by omega) (by omega)
  obtain ⟨free, free'⟩ := hook?_eq_none plain bound unhooked
  constructor
  · intro other
    have apart : byValue.ToldApart host inContainer :=
      (toldApart_of_not_meets plain bound writable unhooked other).at_place rfl right right [] []
    refine ⟨apart.unmixed (positional _), apart.symm.unmixed (positional _), ?_⟩
    intro calm ambient handle given result
    have shown : ∀ value : Value, value.hook? = none →
        List.Forall₂ (host.ShownIn ambient.world) (left ++ value :: right)
          ((left ++ value :: right).map (Value.view ambient.world.heap)) := by
      intro value calm'
      refine forall₂_shownIn hooks depth (fun arg member => ?_) ambient.world
      simp only [List.mem_append, List.mem_cons] at calm member
      rcases member with member | rfl | member
      · exact calm arg (.inl member)
      · exact calm'
      · exact calm arg (.inr member)
    exact ⟨find_after_add_of_toldApart apart (positional _) (shown _ free) (shown _ free') given
      result, find_after_add_of_toldApart apart.symm (positional _) (shown _ free') (shown _ free)
      given result⟩
  · intro meets
    exact Host.extract_congr (eval_classify_of_meets plain bound writable unhooked meets) left right

/-- A point behind a number, by value and in a plain container that holds it. -/
theorem scalar_unmixed :
    let point := Object.inst ⟨3, "Point", .attributes⟩ .empty
    let scalar : Object := ⟨⟨1, "Scalar", .attributes⟩, .container { cell := 0, writable := true }⟩
    let host : Host (State Unit) Value Object RuntimeType String ModelError :=
      host (fun _ object => .done (.ok object)) 1
    let byValue : Capture Value := ⟨[.int 1, .object point], []⟩
    let inContainer : Capture Value := ⟨[.int 1, .object scalar], []⟩
    let ambient : Ambient (State Unit) RuntimeType String :=
      { world := { State.new () with heap := ⟨#[point]⟩ } }
    byValue.Unmixed host inContainer ∧
    ∃ added after, (add host none byValue "point").eval ambient = (.ok added, after) ∧
      ((find host (some added) inContainer).eval after).1 = .ok none := by
  intro point scalar host byValue inContainer ambient
  have other : ¬ point.Meets scalar := by
    rintro ⟨native, -⟩
    cases native
  have plain : point.container? = none := rfl
  have bound : scalar.container? = some { cell := 0, writable := true } := rfl
  obtain ⟨unmixed, -, answers⟩ := (unmixed_of_writable (fun _ object => .done (.ok object)) 0 plain
    bound rfl rfl [.int 1] [] (by decide)).1 other
  have calm : ∀ value ∈ [Value.int 1] ++ [], value.hook? = none := by
    intro value member
    obtain rfl := List.mem_singleton.mp member
    rfl
  exact ⟨unmixed, (answers calm ambient none nofun "point").1⟩

/-- A native reference that holds an instance of its own type reads as that instance does, and is
answered by what was added for it. -/
theorem native_reference_mixed :
    let state : State Unit := State.new ()
    let object := Object.inst state.model.intRef .empty
    let reference := (state.newContainer state.model.intRef object true).1
    let ambient : Ambient (State Unit) RuntimeType String :=
      { world := (state.newContainer state.model.intRef object true).2 }
    let host : Host (State Unit) Value Object RuntimeType String ModelError :=
      host (fun _ object => .done (.ok object)) 1
    let byValue : Capture Value := ⟨[.object object], []⟩
    let inContainer : Capture Value := ⟨[.object reference], []⟩
    let handle : Option (Cache RuntimeType String) := some (Cache.empty .skipDuplicates)
    object.container? = none ∧
    reference.container? = some { cell := 0, writable := true } ∧
    ambient.world.heap.read 0 = object ∧
    (∃ print, ((extract host byValue.positional).eval ambient).1 = .ok print ∧
      ((extract host inContainer.positional).eval ambient).1 = .ok print ∧
      print.agrees print = true) ∧
    ((find host handle inContainer).eval ambient).1 = .ok none ∧
    ∃ added after, (add host handle byValue "by value").eval ambient = (.ok added, after) ∧
      ((find host (some added) inContainer).eval after).1 = .ok (some "by value") := by
  intro state object reference ambient host byValue inContainer handle
  have print : ((extract host byValue.positional).eval ambient).1 =
      .ok ⟨[.object state.model.intRef]⟩ := rfl
  refine ⟨rfl, rfl, rfl, ⟨_, print, rfl, rfl⟩, rfl, _, _, rfl, rfl⟩

end DispatchCache.Reference
