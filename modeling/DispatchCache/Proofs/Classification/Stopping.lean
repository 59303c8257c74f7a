import DispatchCache.Proofs.Classification

/-! # Where reading stops

Only decontainerizing an argument can fail. So an extraction fails exactly at the first argument
that has to be decontainerized and cannot be, with the cause of that and in the state that the
attempt leaves. What stands behind that argument is of no account. -/

namespace DispatchCache

variable {World Arg Val Ty R Err : Type} [DecidableEq Ty]

namespace Host

variable (host : Host World Arg Val Ty R Err)

/-- Reading arguments from `start` on stops at the first that cannot be decontainerized: all before
it are classified, it is one that has to be decontainerized, and that fails. -/
inductive StopsAt (start : Ambient World Ty R) : List Arg → Err → Ambient World Ty R → Prop where
  | intro {left right : List Arg} {arg : Arg} {keys : List (TypeKey Ty)}
      {reached stop : Ambient World Ty R} {cause : Err}
      (before : (extractKeys host left).eval start = (.ok keys, reached))
      (opens : host.opens arg reached = true)
      (fails : (host.decontainerize arg).eval reached = (.error cause, stop)) :
      StopsAt start (left ++ arg :: right) cause stop

variable {host} {start stop : Ambient World Ty R} {arg : Arg} {args : List Arg} {cause : Err}

theorem eval_classify_eq_error_iff :
    (classify host arg).eval start = (.error cause, stop) ↔
      host.opens arg start = true ∧
        (host.decontainerize arg).eval start = (.error cause, stop) := by
  rw [eval_classify]
  unfold view opened opens
  cases isStr : host.isNativeStr start.world arg with
  | true => simp
  | false =>
    cases own : host.ownType start.world arg with
    | none => simp
    | some type =>
      rcases read : (host.decontainerize arg).eval start with ⟨failure | value, after⟩
      · simp
      · simp

/-- What reading stops at does not change when an argument is put in front that can be read. -/
theorem StopsAt.cons {mid : Ambient World Ty R} {key : TypeKey Ty}
    (classified : (classify host arg).eval start = (.ok key, mid))
    (stops : host.StopsAt mid args cause stop) : host.StopsAt start (arg :: args) cause stop := by
  cases stops with
  | @intro left right culprit keys reached _ _ before opens fails =>
    have longer : (extractKeys host (arg :: left)).eval start =
        (.ok (key :: keys), reached) := by
      rw [extractKeys, Run.eval_bind_ok _ classified, Run.eval_bind_ok _ before, Run.eval_pure]
    exact .intro longer opens fails

theorem stopsAt_of_eval_extractKeys
    (failed : (extractKeys host args).eval start = (.error cause, stop)) :
    host.StopsAt start args cause stop := by
  induction args generalizing start with
  | nil => cases failed
  | cons arg args ih =>
    rw [extractKeys] at failed
    rcases read : (classify host arg).eval start with ⟨failure | key, mid⟩
    · rw [Run.eval_bind_error _ read] at failed
      cases failed
      obtain ⟨opens, fails⟩ := eval_classify_eq_error_iff.mp read
      have before : (extractKeys host []).eval start = (.ok [], start) := rfl
      exact .intro before opens fails
    · rw [Run.eval_bind_ok _ read] at failed
      rcases rest : (extractKeys host args).eval mid with ⟨failure | keys, after⟩
      · rw [Run.eval_bind_error _ rest] at failed
        cases failed
        exact (ih rest).cons read
      · rw [Run.eval_bind_ok _ rest] at failed
        cases failed

theorem StopsAt.eval_extractKeys (stops : host.StopsAt start args cause stop) :
    (extractKeys host args).eval start = (.error cause, stop) := by
  cases stops with
  | @intro left right culprit keys reached _ _ before opens fails =>
    induction left generalizing start keys with
    | nil =>
      cases before
      exact Run.eval_bind_error _ (eval_classify_eq_error_iff.mpr ⟨opens, fails⟩)
    | cons first left ih =>
      obtain ⟨key, mid, classified, rest⟩ := Run.exists_of_eval_bind_ok before
      obtain ⟨tail, _, read_tail, built⟩ := Run.exists_of_eval_bind_ok rest
      cases built
      rw [List.cons_append, extractKeys, Run.eval_bind_ok _ classified]
      exact Run.eval_bind_error _ (ih read_tail)

/-- An extraction fails exactly where reading stops. -/
theorem eval_extract_eq_error_iff :
    (extract host args).eval start = (.error cause, stop) ↔ host.StopsAt start args cause stop := by
  have keys : (extractKeys host args).eval start = (.error cause, stop) ↔
      host.StopsAt start args cause stop := ⟨stopsAt_of_eval_extractKeys, StopsAt.eval_extractKeys⟩
  rw [← keys]
  rcases read : (extractKeys host args).eval start with ⟨failure | keys, after⟩
  · rw [show (extract host args).eval start = _ from Run.eval_bind_error _ read]
    simp
  · rw [show (extract host args).eval start = _ from Run.eval_bind_ok _ read, Run.eval_pure]
    simp

end Host

end DispatchCache
