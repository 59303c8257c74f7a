import DispatchCache.Ambient

/-! # Evaluating runs

A run is evaluated at an ambient state to an answer and to the state that it leaves. -/

namespace DispatchCache.Run

variable {World Ty R Err α β : Type}

def eval (run : Run World Ty R Err α) (ambient : Ambient World Ty R) :
    Except Err α × Ambient World Ty R :=
  (ExceptT.run run).run ambient

theorem eval_pure (a : α) (ambient : Ambient World Ty R) :
    (pure a : Run World Ty R Err α).eval ambient = (.ok a, ambient) := rfl

variable {run : Run World Ty R Err α} {ambient after : Ambient World Ty R}

theorem state_modify (change : Ambient World Ty R → Ambient World Ty R)
    (ambient : Ambient World Ty R) :
    (modify change : StateM (Ambient World Ty R) PUnit).run ambient = (⟨⟩, change ambient) := rfl

/-- What follows a first part goes on from its value, at the state it left. -/
theorem state_bind {γ : Type} {first : StateM (Ambient World Ty R) α}
    (next : α → StateM (Ambient World Ty R) γ) {a : α}
    (h : first.run ambient = (a, after)) :
    (first >>= next).run ambient = (next a).run after := by
  rw [StateT.run_bind, h]
  rfl

theorem eval_bind_ok (next : α → Run World Ty R Err β) {a : α}
    (h : run.eval ambient = (.ok a, after)) :
    (run >>= next).eval ambient = (next a).eval after := by
  rw [eval, ExceptT.run_bind]
  exact state_bind _ h

theorem eval_bind_error (next : α → Run World Ty R Err β) {cause : Err}
    (h : run.eval ambient = (.error cause, after)) :
    (run >>= next).eval ambient = (.error cause, after) := by
  rw [eval, ExceptT.run_bind]
  exact state_bind _ h

theorem eval_map_ok (f : α → β) {a : α} (h : run.eval ambient = (.ok a, after)) :
    (f <$> run).eval ambient = (.ok (f a), after) := by
  rw [← bind_pure_comp]
  exact eval_bind_ok _ h

theorem eval_map_error (f : α → β) {cause : Err} (h : run.eval ambient = (.error cause, after)) :
    (f <$> run).eval ambient = (.error cause, after) := by
  rw [← bind_pure_comp]
  exact eval_bind_error _ h

theorem eval_map (f : α → β) (run : Run World Ty R Err α) (ambient : Ambient World Ty R) :
    (f <$> run).eval ambient = ((run.eval ambient).1.map f, (run.eval ambient).2) := by
  rcases h : run.eval ambient with ⟨cause | a, after⟩
  · exact eval_map_error f h
  · exact eval_map_ok f h

variable {Err' : Type}

/-- Telling more about a failure changes nothing about a run that succeeds. -/
theorem eval_adapt_ok (f : Err → Err') {a : α} (h : run.eval ambient = (.ok a, after)) :
    eval (run.adapt f : Run World Ty R Err' α) ambient = (.ok a, after) :=
  state_bind (pure ∘ Except.mapError f) h

theorem eval_adapt_error (f : Err → Err') {cause : Err}
    (h : run.eval ambient = (.error cause, after)) :
    eval (run.adapt f : Run World Ty R Err' α) ambient = (.error (f cause), after) :=
  state_bind (pure ∘ Except.mapError f) h

/-- Building a value out of an answer leaves no trace. -/
theorem snd_eval_bind_pure (f : α → β) (run : Run World Ty R Err α) (ambient : Ambient World Ty R) :
    ((run >>= fun a => pure (f a)).eval ambient).2 = (run.eval ambient).2 := by
  rw [bind_pure_comp, eval_map]

/-- A run whose failure is an answer like any other. -/
theorem eval_lift (run : Run World Ty R Err α) (ambient : Ambient World Ty R) :
    eval (ExceptT.lift run.run : Run World Ty R Err (Except Err α)) ambient =
      (.ok (run.eval ambient).1, (run.eval ambient).2) := rfl

theorem eval_world (ambient : Ambient World Ty R) :
    (world : Run World Ty R Err World).eval ambient = (.ok ambient.world, ambient) := rfl

theorem eval_slotKey [DecidableEq Ty] (ty : Ty) (kind : SlotKind) (ambient : Ambient World Ty R) :
    (slotKey ty kind : Run World Ty R Err ContainerKey).eval ambient =
      (.ok (ambient.slotKey ty kind).1, (ambient.slotKey ty kind).2) := rfl

/-- A sequence that succeeds has succeeded in its first part and then in its second. -/
theorem exists_of_eval_bind_ok {next : α → Run World Ty R Err β} {b : β}
    (h : (run >>= next).eval ambient = (.ok b, after)) :
    ∃ a mid, run.eval ambient = (.ok a, mid) ∧ (next a).eval mid = (.ok b, after) := by
  rcases first : run.eval ambient with ⟨cause | a, mid⟩
  · rw [eval_bind_error next first] at h
    cases h
  · rw [eval_bind_ok next first] at h
    exact ⟨a, mid, rfl, h⟩

end DispatchCache.Run
