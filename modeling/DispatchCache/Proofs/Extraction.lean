import DispatchCache.Proofs.Run
import DispatchCache.Cache.Handle
import Mathlib.Tactic.SplitIfs

/-! # What the arguments of a call read as

The shape of a call says whether its arguments are read at all. If they are, and each of them
can be, the fingerprint has one key for each. -/

namespace DispatchCache

variable {World Arg Val Ty R Err : Type}

namespace Capture

/-- A positional call has between one and `maxArity` arguments, as many as its shape says. -/
theorem arity_of_positional {call : Capture Arg} {arity : Nat}
    (shape : call.shape maxArity = .positional arity) :
    arity = call.arity ∧ 0 < arity ∧ arity ≤ maxArity := by
  unfold Capture.shape at shape
  split_ifs at shape with named zero wide
  obtain rfl : call.arity = arity := by simpa using shape
  exact ⟨rfl, by omega, by omega⟩

theorem shape_of_nameless {call : Capture Arg} (nameless : call.hasNamed = false)
    (pos : 0 < call.arity) (narrow : call.arity ≤ maxArity) :
    call.shape maxArity = .positional call.arity := by
  simp only [shape, nameless, Nat.ne_of_gt pos, Nat.not_lt.mpr narrow, Bool.false_eq_true, if_false]

theorem shape_of_wide {call : Capture Arg} (nameless : call.hasNamed = false)
    (wide : maxArity < call.arity) : call.shape maxArity = .tooWide call.arity := by
  have keys : call.arity ≠ 0 := by omega
  simp only [shape, nameless, keys, wide, Bool.false_eq_true, if_false, if_true]

theorem shape_of_arity_zero {call : Capture Arg} (nameless : call.hasNamed = false)
    (zero : call.arity = 0) : call.shape maxArity = .zeroArity := by
  simp only [shape, nameless, zero, Bool.false_eq_true, if_false, if_true]

/-- Nothing is cached, there is the one slot, or the arguments decide. -/
theorem shape_cases (call : Capture Arg) :
    (call.shape maxArity).isCacheable = false ∨ call.shape maxArity = .zeroArity ∨
      ∃ arity, call.shape maxArity = .positional arity := by
  cases call.shape maxArity with
  | named => exact .inl rfl
  | zeroArity => exact .inr (.inl rfl)
  | tooWide arity => exact .inl rfl
  | positional arity => exact .inr (.inr ⟨arity, rfl⟩)

theorem isCacheable_shape_iff {call : Capture Arg} :
    (call.shape maxArity).isCacheable = true ↔ call.hasNamed = false ∧ call.arity ≤ maxArity := by
  unfold shape
  split_ifs with named zero wide
  · simp [CallShape.isCacheable, named]
  · simp [CallShape.isCacheable, named, zero]
  · simp [CallShape.isCacheable, wide]
  · simp [CallShape.isCacheable, named, Nat.le_of_not_lt wide]

theorem positional_of_zeroArity {call : Capture Arg} (shape : call.shape maxArity = .zeroArity) :
    call.positional = [] := by
  unfold Capture.shape at shape
  split_ifs at shape with named zero
  exact List.length_eq_zero_iff.mp zero

end Capture

variable [DecidableEq Ty] {host : Host World Arg Val Ty R Err}
variable {ambient after : Ambient World Ty R}

theorem length_of_extractKeys {args : List Arg} {keys : List (TypeKey Ty)}
    (read : (extractKeys host args).eval ambient = (.ok keys, after)) :
    keys.length = args.length := by
  induction args generalizing ambient keys with
  | nil =>
    rw [extractKeys, Run.eval_pure] at read
    cases read
    rfl
  | cons arg args ih =>
    obtain ⟨key, mid, -, rest⟩ := Run.exists_of_eval_bind_ok read
    obtain ⟨tail, _, read_tail, built⟩ := Run.exists_of_eval_bind_ok rest
    rw [Run.eval_pure] at built
    cases built
    simp only [List.length_cons, ih read_tail]

/-- An extraction that succeeds yields one key for each argument. -/
theorem arity_of_extract {args : List Arg} {print : Fingerprint Ty}
    (read : (extract host args).eval ambient = (.ok print, after)) :
    print.arity = args.length := by
  obtain ⟨keys, _, read_keys, built⟩ := Run.exists_of_eval_bind_ok read
  rw [Run.eval_pure] at built
  cases built
  exact length_of_extractKeys read_keys

theorem arity_of_extract_positional {call : Capture Arg} {arity : Nat} {print : Fingerprint Ty}
    (shape : call.shape maxArity = .positional arity)
    (read : (extract host call.positional).eval ambient = (.ok print, after)) :
    print.arity = arity := by
  rw [arity_of_extract read, (Capture.arity_of_positional shape).1, Capture.arity]

theorem eval_extract_nil (host : Host World Arg Val Ty R Err) (ambient : Ambient World Ty R) :
    (extract host []).eval ambient = (.ok ⟨[]⟩, ambient) := rfl

end DispatchCache
