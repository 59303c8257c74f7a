import DispatchCache.Proofs.Reference.Registry
import DispatchCache.Reference.Model
import Mathlib.Data.List.Forall2
import Mathlib.Data.List.Nodup

/-! # Classes asked for in turn

A model answers a name with the class that it knows by that name from then on. Names that it does
not know yet are all that makes its registry grow, and names that it knows change nothing. -/

namespace DispatchCache.Reference.State

variable {Extra : Type} {state : State Extra} {name : String} {type : RuntimeType}

/-- The type that a model knows by a name. -/
def typeOf? (state : State Extra) (name : String) : Option RuntimeType :=
  state.model.registry.get? name

theorem run_classNamed (name : String) (state : State Extra) :
    ((classNamed name).run state).1.name = name ∧
      ((classNamed name).run state).2.extra = state.extra :=
  ⟨Registry.name_getOrCreate _ _ _ _, rfl⟩

theorem run_classNamed_of_known (known : state.typeOf? name = some type) :
    (classNamed name).run state = (type, state) := by
  have same := Registry.getOrCreate_of_known known state.nextId .attributes
  let answered := state.model.registry.getOrCreate state.nextId name .attributes
  change (answered.1, ({ state with
    nextId := answered.2.2
    model := { state.model with registry := answered.2.1 } } : State Extra)) = _
  rw [show answered = _ from same]

theorem typeOf?_classNamed (name other : String) (state : State Extra) :
    ((classNamed name).run state).2.typeOf? other =
      if other = name then some ((classNamed name).run state).1 else state.typeOf? other :=
  Registry.get?_getOrCreate _ _ _ _ other

theorem len_classNamed (name : String) (state : State Extra) :
    ((classNamed name).run state).2.model.registry.len =
      state.model.registry.len + if state.typeOf? name = none then 1 else 0 :=
  Registry.len_getOrCreate _ _ _ _

/-- What was known is known as the same. -/
theorem typeOf?_classNamed_of_known (known : state.typeOf? name = some type) (other : String) :
    ((classNamed other).run state).2.typeOf? name = some type := by
  rw [typeOf?_classNamed]
  split_ifs with same
  · subst same
    rw [run_classNamed_of_known known]
  · exact known

/-- The classes of names that are all known. -/
theorem run_mapM_classNamed_of_known {names : List String} {types : List RuntimeType}
    (known : List.Forall₂ (fun name type => state.typeOf? name = some type) names types) :
    (names.mapM classNamed).run state = (types, state) := by
  induction known with
  | nil => rfl
  | cons first _ ih =>
    rw [List.mapM_cons, StateT.run_bind, run_classNamed_of_known first]
    exact congrArg (fun run : List RuntimeType × State Extra => (_ :: run.1, run.2)) ih

/-- Once classes were asked for, their names are known as what was answered. -/
theorem run_mapM_classNamed (names : List String) (state : State Extra) :
    ∃ types later, (names.mapM classNamed).run state = (types, later) ∧
      List.Forall₂ (fun name type => later.typeOf? name = some type) names types ∧
      (∀ name type, state.typeOf? name = some type → later.typeOf? name = some type) ∧
      later.extra = state.extra := by
  induction names generalizing state with
  | nil => exact ⟨[], state, rfl, .nil, fun _ _ known => known, rfl⟩
  | cons name names ih =>
    rcases made : (classNamed name).run state with ⟨type, mid⟩
    have known : mid.typeOf? name = some type := by
      have answered := typeOf?_classNamed name name state
      rwa [made, if_pos rfl] at answered
    obtain ⟨types, later, rest, all, kept, extra⟩ := ih mid
    refine ⟨type :: types, later, ?_, .cons (kept name type known) all, ?_, ?_⟩
    · rw [List.mapM_cons, StateT.run_bind, made]
      exact congrArg (fun run : List RuntimeType × State Extra => (type :: run.1, run.2)) rest
    · intro other type' known'
      have still := typeOf?_classNamed_of_known known' name
      rw [made] at still
      exact kept other type' still
    · have same := (run_classNamed name state).2
      rw [made] at same
      exact extra.trans same

/-- Distinct names add one type for each that was not known. -/
theorem len_mapM_classNamed {names : List String} (distinct : names.Nodup) (state : State Extra) :
    ((names.mapM classNamed).run state).2.model.registry.len =
      state.model.registry.len + (names.filter fun name => (state.typeOf? name).isNone).length := by
  induction names generalizing state with
  | nil => rfl
  | cons name names ih =>
    obtain ⟨new, distinct⟩ := List.nodup_cons.mp distinct
    rcases made : (classNamed name).run state with ⟨type, mid⟩
    have grown := len_classNamed name state
    rw [made] at grown
    -- The names that follow are other names, so it does not matter that this one is known by now.
    have same : (names.filter fun other => (mid.typeOf? other).isNone) =
        names.filter fun other => (state.typeOf? other).isNone := by
      refine List.filter_congr fun other member => ?_
      have kept := typeOf?_classNamed name other state
      rw [made, if_neg (fun same : other = name => new (same ▸ member))] at kept
      rw [kept]
    have rest := ih distinct mid
    rw [grown, same] at rest
    rw [List.mapM_cons, StateT.run_bind, made, List.filter_cons]
    refine rest.trans ?_
    cases state.typeOf? name with
    | none => simp only [Option.isNone_none, if_true, List.length_cons]; omega
    | some type => simp

end DispatchCache.Reference.State
