import DispatchCache.Proofs.Simulation.Shapes

/-! # Shapes are pairwise distinct

The calls of a workload are as many as it has shapes, and their fingerprints are told apart by their
first argument, whatever types the model knew before. Building them makes the classes that were not
known. Building them again makes none, and gives the same calls. -/

namespace DispatchCache.Workload

open Reference

variable {Extra : Type} (workload : Workload)

/-- The names of the classes of a workload. -/
def names : List String := (List.range workload.shapes).map shapeName

theorem nodup_names : workload.names.Nodup := List.nodup_range.map shapeName_injective

theorem buildShapes_eq : (workload.buildShapes : StateM (State Extra) _) =
    List.map workload.callOf <$> workload.names.mapM State.classNamed :=
  workload.mapM_shapeAt_eq _

/-- Building shapes again gives the same calls and makes no type. -/
theorem buildShapes_again (state : State Extra) :
    workload.buildShapes.run (workload.buildShapes.run state).2 =
      workload.buildShapes.run state := by
  obtain ⟨types, later, answered, known, -⟩ := State.run_mapM_classNamed workload.names state
  have built : workload.buildShapes.run state = (types.map workload.callOf, later) := by
    rw [buildShapes_eq, StateT.run_map, answered]
    rfl
  rw [built, buildShapes_eq, StateT.run_map, State.run_mapM_classNamed_of_known known]
  rfl

theorem len_buildShapes (state : State Extra) :
    (workload.buildShapes.run state).2.model.registry.len = state.model.registry.len +
      (workload.names.filter fun name => (state.model.registry.get? name).isNone).length := by
  have grown := State.len_mapM_classNamed workload.nodup_names state
  rcases answered : (workload.names.mapM State.classNamed).run state with ⟨types, later⟩
  rw [answered] at grown
  rw [buildShapes_eq, StateT.run_map, answered]
  exact grown

/-- The call has the fingerprint in whatever state its arguments are read, and for all hooks. -/
def ReadsAs (Extra : Type) (call : Capture Value) (print : Fingerprint RuntimeType) : Prop :=
  ∀ (R : Type) (hooks : Hooks Extra R) depth ambient, ∃ after,
    (extract (Reference.host hooks (depth + 1)) call.positional).eval ambient = (.ok print, after)

/-- Fingerprints of distinct classes agree exactly at the same place. -/
theorem agrees_printOf_iff_of_nodup (pos : 0 < workload.arity) {types : List RuntimeType}
    (distinct : types.Nodup) {i j : Nat} (hi : i < types.length) (hj : j < types.length) :
    (workload.printOf types[i]).agrees (workload.printOf types[j]) = true ↔ i = j := by
  rw [agrees_printOf_iff workload pos, distinct.getElem_inj_iff]

/-- From whatever state of the model shapes are built. There is a nameless call for each shape, of
the arity that is asked for. With arguments, no fingerprint has an unset key, and two of them agree
exactly if they are of the same shape. The registry grows by the names of shapes that it does not
know. Building again makes no type, and the calls read as the same fingerprints one by one. -/
theorem shapes_pairwise_distinct (state : State Extra) :
    let built := workload.buildShapes.run state
    let again := workload.buildShapes.run built.2
    (built.1.length = workload.shapes ∧
      ∀ call ∈ built.1, call.hasNamed = false ∧ call.arity = workload.arity) ∧
    (∃ prints : List (Fingerprint RuntimeType),
      List.Forall₂ (ReadsAs Extra) built.1 prints ∧ List.Forall₂ (ReadsAs Extra) again.1 prints ∧
      (∀ print ∈ prints, print.isCacheable = true ∧ print.agrees print = true) ∧
      (0 < workload.arity → ∀ i j, (hi : i < prints.length) → (hj : j < prints.length) →
        (prints[i].agrees prints[j] = true ↔ i = j))) ∧
    built.2.model.registry.len = state.model.registry.len +
      (workload.names.filter fun name => (state.model.registry.get? name).isNone).length ∧
    again.2 = built.2 := by
  intro built again
  have same : again = built := workload.buildShapes_again state
  obtain ⟨types, later, run, named, distinct, -⟩ := workload.run_buildShapes state
  have calls : built.1 = types.map workload.callOf := congrArg Prod.fst run
  have reads : List.Forall₂ (ReadsAs Extra) built.1 (types.map workload.printOf) := by
    rw [calls, List.forall₂_map_left_iff, List.forall₂_map_right_iff, List.forall₂_same]
    exact fun type _ R hooks depth ambient => workload.eval_extract_callOf hooks depth type ambient
  refine ⟨⟨?length, ?calls⟩, ⟨types.map workload.printOf, reads, same ▸ reads, ?set, ?apart⟩,
    workload.len_buildShapes state, congrArg Prod.snd same⟩
  case length =>
    have count := congrArg List.length named
    rw [calls]
    simpa using count
  case calls =>
    rw [calls]
    intro call member
    obtain ⟨type, -, rfl⟩ := List.mem_map.mp member
    exact ⟨rfl, by simp [Capture.arity, callOf]⟩
  case set =>
    intro print member
    obtain ⟨type, -, rfl⟩ := List.mem_map.mp member
    have cacheable := workload.isCacheable_printOf type
    exact ⟨cacheable, (Fingerprint.agrees_self_iff _).mpr cacheable⟩
  case apart =>
    intro pos i j hi hj
    simp only [List.getElem_map]
    exact workload.agrees_printOf_iff_of_nodup pos distinct _ _

/-- Three shapes where the second class is taken by a type of another layout. -/
theorem shapes_distinct_of_taken_name :
    let workload : Workload := ⟨2, 3, 1⟩
    let state : State Unit := ((State.getOrCreate "Shape1" .nativeRef).run (State.new ())).2
    let built := workload.buildShapes.run state
    built.1.length = 3 ∧ state.model.registry.len = 3 ∧ built.2.model.registry.len = 5 ∧
      ∃ prints : List (Fingerprint RuntimeType), List.Forall₂ (ReadsAs Unit) built.1 prints ∧
        ∀ (h : 1 < prints.length) (h' : 2 < prints.length), prints[1].agrees prints[2] ≠ true := by
  intro workload state built
  obtain ⟨⟨length, -⟩, ⟨prints, reads, -, -, apart⟩, grown, -⟩ :=
    workload.shapes_pairwise_distinct state
  refine ⟨length, rfl, grown.trans rfl, prints, reads, fun h h' agrees => ?_⟩
  exact absurd ((apart (by decide) 1 2 h h').mp agrees) (by decide)

end DispatchCache.Workload
