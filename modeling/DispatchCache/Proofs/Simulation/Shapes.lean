import DispatchCache.Proofs.Reference.Classes
import DispatchCache.Proofs.Reference.Reading
import DispatchCache.Proofs.Extraction
import DispatchCache.Simulation
import Mathlib.Data.List.Nodup
import Mathlib.Tactic.SplitIfs

/-! # The shapes of a workload

Each shape has a class of its own, told apart by its name, as the type of its first argument.
The other arguments are native and the same in all shapes. So the fingerprints of two shapes
agree exactly if the shapes have the same class. -/

namespace DispatchCache

open Reference

variable {Extra R : Type}

namespace Workload

variable (workload : Workload)

def shapeName (shape : Nat) : String := "Shape" ++ toString shape

theorem shapeName_injective : Function.Injective shapeName := by
  intro shape other same
  have digits : Nat.toDigits 10 shape = Nat.toDigits 10 other := by
    have numbers := (String.append_right_inj "Shape").mp same
    rw [Nat.toString_eq_ofList_toDigits, Nat.toString_eq_ofList_toDigits] at numbers
    exact String.ofList_injective numbers
  calc
    shape = Nat.ofDigitChars 10 (Nat.toDigits 10 shape) 0 := Nat.ofDigitChars_ten_toDigits.symm
    _ = Nat.ofDigitChars 10 (Nat.toDigits 10 other) 0 := by rw [digits]
    _ = other := Nat.ofDigitChars_ten_toDigits

/-- The call of the shape whose class is `type`. -/
def callOf (type : RuntimeType) : Capture Value where
  positional := (List.range workload.arity).map fun place =>
    if place = 0 then .object (.inst type .empty) else argAt place

/-- The arity decides how the calls of a workload present themselves. -/
theorem shape_callOf (type : RuntimeType) :
    (workload.callOf type).shape maxArity =
      if workload.arity = 0 then .zeroArity
      else if maxArity < workload.arity then .tooWide workload.arity
      else .positional workload.arity := by
  have arity : (workload.callOf type).arity = workload.arity := by
    simp [Capture.arity, callOf]
  have nameless : (workload.callOf type).hasNamed = false := rfl
  simp only [Capture.shape, nameless, arity, Bool.false_eq_true, if_false]

/-- Shapes are built by asking for their classes. -/
theorem mapM_shapeAt_eq (shapes : List Nat) :
    (shapes.mapM workload.shapeAt : StateM (State Extra) _) =
      List.map workload.callOf <$> (shapes.map shapeName).mapM State.classNamed := by
  have each : (workload.shapeAt : Nat → StateM (State Extra) _) =
      fun shape => workload.callOf <$> State.classNamed (shapeName shape) := rfl
  induction shapes with
  | nil => rfl
  | cons shape shapes ih =>
    rw [List.mapM_cons, ih, each, List.map_cons, List.mapM_cons]
    rfl

theorem run_mapM_shapeAt (shapes : List Nat) (state : State Extra) :
    ∃ (types : List RuntimeType) (later : State Extra),
      (shapes.mapM workload.shapeAt).run state = (types.map workload.callOf, later) ∧
      types.map RuntimeType.name = shapes.map shapeName ∧ later.extra = state.extra := by
  obtain ⟨types, later, answered, known, -, kept⟩ :=
    State.run_mapM_classNamed (shapes.map shapeName) state
  refine ⟨types, later, ?_, ?_, kept⟩
  · rw [mapM_shapeAt_eq, StateT.run_map, answered]
    rfl
  · rw [← List.forall₂_eq_eq_eq, List.forall₂_map_left_iff]
    exact known.flip.imp fun type name known => Registry.name_of_get? known

/-- The calls of a workload are those of as many classes as it has shapes, no two of them the
same. -/
theorem run_buildShapes (state : State Extra) :
    ∃ (types : List RuntimeType) (later : State Extra),
      workload.buildShapes.run state = (types.map workload.callOf, later) ∧
      types.map RuntimeType.name = (List.range workload.shapes).map shapeName ∧ types.Nodup ∧
      later.extra = state.extra := by
  obtain ⟨types, later, built, names, kept⟩ :=
    workload.run_mapM_shapeAt (List.range workload.shapes) state
  have distinct : (types.map RuntimeType.name).Nodup := by
    rw [names]
    exact List.nodup_range.map shapeName_injective
  exact ⟨types, later, built, names, distinct.of_map _, kept⟩

/-- What the argument at a place is filed under. -/
def keyAt (type : RuntimeType) (place : Nat) : TypeKey RuntimeType :=
  if place = 0 then .object type else if place % 2 = 1 then .nativeInt else .nativeStr

def printOf (type : RuntimeType) : Fingerprint RuntimeType :=
  ⟨(List.range workload.arity).map (keyAt type)⟩

theorem arity_printOf (type : RuntimeType) : (workload.printOf type).arity = workload.arity := by
  simp [printOf, Fingerprint.arity]

theorem isCacheable_printOf (type : RuntimeType) : (workload.printOf type).isCacheable = true := by
  simp only [printOf, Fingerprint.isCacheable, List.all_eq_true, List.mem_map]
  rintro key ⟨place, -, rfl⟩
  unfold keyAt
  split_ifs <;> rfl

/-- The first argument tells shapes apart, and nothing else does. -/
theorem agrees_printOf_iff (pos : 0 < workload.arity) (type other : RuntimeType) :
    (workload.printOf type).agrees (workload.printOf other) = true ↔ type = other := by
  obtain ⟨width, wide⟩ := Nat.exists_eq_succ_of_ne_zero (Nat.ne_of_gt pos)
  constructor
  · intro agrees
    simp only [printOf, wide, List.range_succ_eq_map, List.map_cons, Fingerprint.agrees,
      Fingerprint.agreeAll, Bool.and_eq_true] at agrees
    simpa [keyAt, TypeKey.agrees] using agrees.1
  · rintro rfl
    exact (Fingerprint.agrees_self_iff _).mpr (workload.isCacheable_printOf type)

/-- In whatever state a shape is read, its fingerprint is the same. -/
theorem eval_extract_callOf (hooks : Hooks Extra R) (depth : Nat) (type : RuntimeType)
    (ambient : Ambient (State Extra) RuntimeType R) :
    ∃ after, (extract (Reference.host hooks (depth + 1)) (workload.callOf type).positional).eval
      ambient = (.ok (workload.printOf type), after) := by
  have unhooked : ∀ value ∈ (workload.callOf type).positional, value.hook? = none := by
    simp only [callOf, List.mem_map]
    rintro value ⟨place, -, rfl⟩
    unfold argAt
    split_ifs <;> rfl
  obtain ⟨after, read, -⟩ := Host.eval_extract_of_shown
    (forall₂_shownIn hooks depth unhooked ambient.world) rfl
  refine ⟨after, read.trans ?_⟩
  have keys : ((workload.callOf type).positional.map (Value.view ambient.world.heap)).map
      (View.key after.slots) = (List.range workload.arity).map (keyAt type) := by
    rw [callOf, List.map_map, List.map_map]
    refine List.map_congr_left fun place _ => ?_
    simp only [Function.comp_apply, keyAt, argAt]
    split_ifs <;> rfl
  rw [keys, printOf]

end Workload

end DispatchCache
