import DispatchCache.Proofs.Classification

/-! # Hosts that keep a record

A host can keep a record of the arguments that it decontainerizes, in a world that has the record
beside its own. Keeping it disturbs nothing: each argument is classified as it would be without a
record, and goes on record exactly if it is decontainerized. -/

namespace DispatchCache

variable {World Arg Val Ty R Err : Type}

/-- The state of a host in a world that keeps a record beside its own. -/
def Ambient.forget (ambient : Ambient (World × List Arg) Ty R) : Ambient World Ty R :=
  ⟨ambient.world.1, ambient.slots, ambient.shared, ambient.log⟩

def Ambient.recall (ambient : Ambient World Ty R) (record : List Arg) :
    Ambient (World × List Arg) Ty R :=
  ⟨(ambient.world, record), ambient.slots, ambient.shared, ambient.log⟩

/-- The host that keeps a record of the arguments it has read, oldest first. -/
def Host.recorded (host : Host World Arg Val Ty R Err) :
    Host (World × List Arg) Arg Val Ty R Err where
  isNativeStr world := host.isNativeStr world.1
  isNativeInt world := host.isNativeInt world.1
  isNativeNum world := host.isNativeNum world.1
  ownType world := host.ownType world.1
  isWritable world := host.isWritable world.1
  typeOf world := host.typeOf world.1
  isTypeObject world := host.isTypeObject world.1
  isNativeRef := host.isNativeRef
  decontainerize arg := ExceptT.mk fun ambient =>
    let (answer, after) := (host.decontainerize arg).eval ambient.forget
    (answer, after.recall (ambient.world.2 ++ [arg]))

theorem View.demand_recall [DecidableEq Ty] (view : View Ty) (ambient : Ambient World Ty R)
    (record : List Arg) :
    view.demand (ambient.recall record) = (view.demand ambient).recall record := by
  unfold View.demand
  cases view.slot? with
  | none => rfl
  | some slot =>
    simp only [Option.elim_some, Ambient.slotKey, Ambient.recall]
    by_cases made : ambient.slots.isMade slot.1 slot.2 = true
    · simp only [made, if_true]
    · simp only [made, Bool.false_eq_true, if_false]
      rfl

namespace Host

variable (host : Host World Arg Val Ty R Err) (arg : Arg) (ambient : Ambient World Ty R)
variable (record : List Arg)

theorem eval_decontainerize_recorded :
    (host.recorded.decontainerize arg).eval (ambient.recall record) =
      (((host.decontainerize arg).eval ambient).1,
        ((host.decontainerize arg).eval ambient).2.recall (record ++ [arg])) := rfl

theorem opens_recorded :
    host.recorded.opens arg (ambient.recall record) = host.opens arg ambient := rfl

theorem view_recorded :
    host.recorded.view arg (ambient.recall record) = host.view arg ambient := by
  have isStr : host.recorded.isNativeStr (ambient.recall record).world arg =
      host.isNativeStr ambient.world arg := rfl
  have own : host.recorded.ownType (ambient.recall record).world arg =
      host.ownType ambient.world arg := rfl
  simp only [view, isStr, own, eval_decontainerize_recorded]
  cases host.isNativeStr ambient.world arg with
  | true => rfl
  | false =>
    cases host.ownType ambient.world arg with
    | none => rfl
    | some own => rcases (host.decontainerize arg).eval ambient with ⟨cause | value, after⟩ <;> rfl

theorem opened_recorded :
    host.recorded.opened arg (ambient.recall record) =
      (host.opened arg ambient).recall
        (record ++ if host.opens arg ambient then [arg] else []) := by
  unfold opened
  rw [opens_recorded, eval_decontainerize_recorded]
  by_cases opens : host.opens arg ambient = true
  · simp only [opens, if_true]
  · simp only [opens, Bool.false_eq_true, if_false, List.append_nil]

/-- What is decontainerized to classify an argument is the argument itself, once or not at all. -/
theorem eval_classify_recorded [DecidableEq Ty] :
    (classify host.recorded arg).eval (ambient.recall record) =
      (((classify host arg).eval ambient).1,
        ((classify host arg).eval ambient).2.recall
          (record ++ if host.opens arg ambient then [arg] else [])) := by
  rw [eval_classify, eval_classify, view_recorded, opened_recorded]
  cases host.view arg ambient with
  | error cause => rfl
  | ok view =>
    simp only [View.demand_recall]
    rfl

end Host

end DispatchCache
