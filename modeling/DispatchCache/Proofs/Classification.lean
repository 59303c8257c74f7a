import DispatchCache.Proofs.Run
import DispatchCache.Classify
import Mathlib.Data.List.Basic
import Mathlib.Tactic.SplitIfs

/-! # How an argument looks to dispatch

What an argument is filed under depends on its view alone: on the kind of native value it is,
or on the type of what it holds and on how that is bound. Classifying an argument is viewing
it and then making the slot that the view calls for. Slots are only ever added to a table, so
a view keeps the key that it was given. -/

namespace DispatchCache

variable {World Arg Val Ty R Err : Type}

namespace SlotTable

variable [DecidableEq Ty]

theorem prefix_make (table : SlotTable Ty) (ty : Ty) (kind : SlotKind) :
    table.made <+: (table.make ty kind).made := by
  unfold make
  split_ifs
  · exact List.prefix_rfl
  · exact List.prefix_append _ _

theorem isMade_of_prefix {table later : SlotTable Ty} {ty : Ty} {kind : SlotKind}
    (grown : table.made <+: later.made) (made : table.isMade ty kind = true) :
    later.isMade ty kind = true := by
  simp only [isMade, List.contains_iff_mem] at made ⊢
  exact grown.subset made

/-- A key that was given out stays the key of its slot. -/
theorem key_of_prefix {table later : SlotTable Ty} {ty : Ty} {kind : SlotKind}
    (grown : table.made <+: later.made) (made : table.isMade ty kind = true) :
    later.key ty kind = table.key ty kind := by
  obtain ⟨added, whole⟩ := grown
  simp only [isMade, List.contains_iff_mem] at made
  simp [key, ← whole, List.idxOf_append, made]

/-- Tokens tell slots apart. -/
theorem agrees_key_iff {table : SlotTable Ty} {ty ty' : Ty} {kind kind' : SlotKind}
    (made : table.isMade ty kind = true) (made' : table.isMade ty' kind' = true) :
    (table.key ty kind).agrees (table.key ty' kind') = true ↔ ty = ty' ∧ kind = kind' := by
  simp only [isMade, List.contains_iff_mem] at made made'
  rw [ContainerKey.agrees, beq_iff_eq]
  constructor
  · intro same
    exact Prod.mk.inj ((List.idxOf_inj made).mp same)
  · rintro ⟨rfl, rfl⟩
    rfl

/-- The key that a slot gets is known before it is made. -/
theorem key_make_self (table : SlotTable Ty) (ty : Ty) (kind : SlotKind) :
    (table.make ty kind).key ty kind = table.key ty kind := by
  unfold make
  split_ifs with made
  · rfl
  · simp only [isMade, List.contains_iff_mem] at made
    simp [key, List.idxOf_append_of_notMem made, List.idxOf_of_notMem made]

end SlotTable

theorem Ambient.slotKey_eq [DecidableEq Ty] (ambient : Ambient World Ty R) (ty : Ty)
    (kind : SlotKind) :
    (ambient.slotKey ty kind).1 = (ambient.slots.make ty kind).key ty kind ∧
      (ambient.slotKey ty kind).2.slots = ambient.slots.make ty kind := by
  rw [SlotTable.key_make_self]
  unfold slotKey SlotTable.make
  split_ifs <;> exact ⟨rfl, rfl⟩

/-- What dispatch sees of an argument. Values do not show. -/
inductive View (Ty : Type) where
  | str
  /-- An instance of a type, or the type itself. -/
  | plain (ty : Ty) (isType : Bool)
  /-- The same, bound as a writable container. -/
  | writable (ty : Ty) (isType : Bool)
  | int
  | num
  | unknown
  deriving DecidableEq, Repr

namespace View

/-- The slot that stands for a view. -/
def slot? : View Ty → Option (Ty × SlotKind)
  | .writable ty isType => some (ty, if isType then .typeObject else .inst)
  | _ => none

variable [DecidableEq Ty]

def key (table : SlotTable Ty) : View Ty → TypeKey Ty
  | .str => .nativeStr
  | .plain ty false => .object ty
  | .plain ty true => .typeObject ty
  | .writable ty false => .writableObject (table.key ty .inst)
  | .writable ty true => .writableTypeObject (table.key ty .typeObject)
  | .int => .nativeInt
  | .num => .nativeNum
  | .unknown => .unset

/-- Whether the key of the view was given out. -/
def Keyed (view : View Ty) (table : SlotTable Ty) : Prop :=
  ∀ ty kind, view.slot? = some (ty, kind) → table.isMade ty kind = true

theorem Keyed.of_prefix {view : View Ty} {table later : SlotTable Ty}
    (keyed : view.Keyed table) (grown : table.made <+: later.made) : view.Keyed later :=
  fun ty kind slot => SlotTable.isMade_of_prefix grown (keyed ty kind slot)

theorem key_of_prefix {view : View Ty} {table later : SlotTable Ty}
    (keyed : view.Keyed table) (grown : table.made <+: later.made) :
    view.key later = view.key table := by
  cases view with
  | writable ty isType =>
    have same := SlotTable.key_of_prefix grown (keyed ty _ rfl)
    cases isType
    · exact congrArg TypeKey.writableObject same
    · exact congrArg TypeKey.writableTypeObject same
  | plain ty isType => cases isType <;> rfl
  | _ => rfl

/-- In one table, keys agree exactly for equal views, except for arguments of unknown kind. -/
theorem agrees_key_iff {table : SlotTable Ty} {view view' : View Ty}
    (keyed : view.Keyed table) (keyed' : view'.Keyed table) :
    (view.key table).agrees (view'.key table) = true ↔ view = view' ∧ view ≠ .unknown := by
  cases view with
  | writable ty isType =>
    cases view' with
    | writable ty' isType' =>
      have slots := SlotTable.agrees_key_iff (keyed ty _ rfl) (keyed' ty' _ rfl)
      cases isType <;> cases isType' <;> simp_all [key, TypeKey.agrees]
    | plain ty' isType' => cases isType <;> cases isType' <;> simp [key, TypeKey.agrees]
    | _ => cases isType <;> simp [key, TypeKey.agrees]
  | plain ty isType =>
    cases view' with
    | plain ty' isType' => cases isType <;> cases isType' <;> simp [key, TypeKey.agrees]
    | writable ty' isType' => cases isType <;> cases isType' <;> simp [key, TypeKey.agrees]
    | _ => cases isType <;> simp [key, TypeKey.agrees]
  | _ =>
    cases view' with
    | plain ty' isType' => cases isType' <;> simp [key, TypeKey.agrees]
    | writable ty' isType' => cases isType' <;> simp [key, TypeKey.agrees]
    | _ => simp [key, TypeKey.agrees]

/-- A key by value agrees with that of the same view alone, in whatever tables they are looked
up. -/
theorem eq_of_agrees_plain {table later : SlotTable Ty} {ty : Ty} {isType : Bool} {view : View Ty}
    (agrees : ((plain ty isType).key table).agrees (view.key later) = true) :
    view = .plain ty isType := by
  cases view with
  | plain ty' isType' => cases isType <;> cases isType' <;> simp_all [key, TypeKey.agrees]
  | writable ty' isType' => cases isType <;> cases isType' <;> simp [key, TypeKey.agrees] at agrees
  | _ => cases isType <;> simp [key, TypeKey.agrees] at agrees

/-- Makes the slot that the view calls for. -/
def demand (view : View Ty) (ambient : Ambient World Ty R) : Ambient World Ty R :=
  view.slot?.elim ambient fun (ty, kind) => (ambient.slotKey ty kind).2

theorem prefix_demand (view : View Ty) (ambient : Ambient World Ty R) :
    ambient.slots.made <+: (view.demand ambient).slots.made := by
  unfold demand
  cases view.slot? with
  | none => exact List.prefix_rfl
  | some slot =>
    rw [Option.elim_some, (ambient.slotKey_eq _ _).2]
    exact SlotTable.prefix_make _ _ _

/-- Making a slot leaves the world and the shared caches alone. -/
theorem demand_keeps (view : View Ty) (ambient : Ambient World Ty R) :
    (view.demand ambient).world = ambient.world ∧
      (view.demand ambient).shared = ambient.shared := by
  unfold demand
  cases view.slot? with
  | none => exact ⟨rfl, rfl⟩
  | some slot =>
    simp only [Option.elim_some, Ambient.slotKey]
    split_ifs
    · exact ⟨rfl, rfl⟩
    · exact ⟨rfl, rfl⟩

theorem keyed_demand (view : View Ty) (ambient : Ambient World Ty R) :
    view.Keyed (view.demand ambient).slots := by
  intro ty kind slot
  rw [demand, slot, Option.elim_some, (ambient.slotKey_eq _ _).2]
  exact SlotTable.isMade_make _ _ _

end View

/-- The view of a value that was read out of a managed argument. -/
def Queries.heldView (queries : Queries World Arg Val Ty) (world : World) (arg : Arg) (own : Ty)
    (value : Val) : View Ty :=
  if !queries.isWritable world arg then
    .plain (queries.typeOf world value) (queries.isTypeObject world value)
  else if queries.isNativeRef own then .plain own false
  else .writable (queries.typeOf world value) (queries.isTypeObject world value)

/-- The view of an argument without a type of its own. -/
def Queries.nativeView (queries : Queries World Arg Val Ty) (world : World) (arg : Arg) :
    View Ty :=
  if queries.isNativeInt world arg then .int
  else if queries.isNativeNum world arg then .num
  else .unknown

/-- The key of a value is the key of its view, once the slot of the view is made. -/
theorem Queries.eval_heldKey [DecidableEq Ty] (queries : Queries World Arg Val Ty) (arg : Arg)
    (own : Ty) (value : Val) (ambient : Ambient World Ty R) :
    (queries.heldKey ambient.world arg own value : Run World Ty R Err _).eval ambient =
      let view := queries.heldView ambient.world arg own value
      (.ok (view.key (view.demand ambient).slots), view.demand ambient) := by
  unfold heldKey heldView
  cases writable : queries.isWritable ambient.world arg with
  | false =>
    cases isType : queries.isTypeObject ambient.world value <;> rfl
  | true =>
    by_cases native : queries.isNativeRef own = true
    · simp only [native, Bool.not_true, Bool.false_eq_true, if_false, if_true]
      rfl
    · cases isType : queries.isTypeObject ambient.world value with
      | false =>
        have made := (ambient.slotKey_eq (queries.typeOf ambient.world value) .inst)
        simp only [native, Bool.not_true, Bool.false_eq_true, if_false]
        rw [Run.eval_map_ok _ (Run.eval_slotKey _ _ _), made.1, ← made.2]
        rfl
      | true =>
        have made := (ambient.slotKey_eq (queries.typeOf ambient.world value) .typeObject)
        simp only [native, Bool.not_true, Bool.false_eq_true, if_false, if_true]
        rw [Run.eval_map_ok _ (Run.eval_slotKey _ _ _), made.1, ← made.2]
        rfl

theorem Queries.nativeKey_eq [DecidableEq Ty] (queries : Queries World Arg Val Ty) (world : World)
    (arg : Arg) (ambient : Ambient World Ty R) :
    let view := queries.nativeView world arg
    queries.nativeKey world arg = view.key (view.demand ambient).slots ∧
      view.demand ambient = ambient := by
  unfold nativeKey nativeView
  split_ifs <;> exact ⟨rfl, rfl⟩

namespace Host

variable (host : Host World Arg Val Ty R Err) (arg : Arg) (ambient : Ambient World Ty R)

/-- The view of an argument, unless it cannot be read. -/
def view : Except Err (View Ty) :=
  if host.isNativeStr ambient.world arg then .ok .str
  else
    match host.ownType ambient.world arg with
    | none => .ok (host.nativeView ambient.world arg)
    | some own =>
      match (host.decontainerize arg).eval ambient with
      | (.error cause, _) => .error cause
      | (.ok value, after) => .ok (host.heldView after.world arg own value)

/-- Whether the argument is decontainerized at all. -/
def opens : Bool :=
  !host.isNativeStr ambient.world arg && (host.ownType ambient.world arg).isSome

/-- The state in which the argument has been decontainerized, if it is. -/
def opened : Ambient World Ty R :=
  if host.opens arg ambient then ((host.decontainerize arg).eval ambient).2 else ambient

variable [DecidableEq Ty]

/-- Classifying is viewing, followed by making the slot of the view. -/
theorem eval_classify :
    (classify host arg).eval ambient =
      match host.view arg ambient with
      | .error cause => (.error cause, host.opened arg ambient)
      | .ok view =>
        (.ok (view.key (view.demand (host.opened arg ambient)).slots),
          view.demand (host.opened arg ambient)) := by
  unfold classify
  rw [Run.eval_bind_ok _ (Run.eval_world ambient)]
  by_cases isStr : host.isNativeStr ambient.world arg = true
  · simp only [view, opened, opens, isStr, if_true]
    rfl
  · cases own : host.ownType ambient.world arg with
    | none =>
      have native := host.nativeKey_eq ambient.world arg ambient
      simp only [view, opened, opens, isStr, own, if_false, Option.isSome_none, Bool.and_false,
        Bool.false_eq_true]
      rw [Run.eval_pure, ← native.1, native.2]
    | some type =>
      have isOpen : host.opens arg ambient = true := by simp [opens, isStr, own]
      simp only [view, opened, isOpen, isStr, own, if_true, if_false, Bool.false_eq_true]
      rcases read : (host.decontainerize arg).eval ambient with ⟨cause | value, after⟩
      · exact Run.eval_bind_error _ read
      · rw [Run.eval_bind_ok _ read, Run.eval_bind_ok _ (Run.eval_world after)]
        exact host.eval_heldKey arg type value after

end Host

end DispatchCache
