import DispatchCache.Fingerprint

/-! # Agreement of fingerprints

Agreement is symmetric and transitive, on keys and on fingerprints of any length. It is not
reflexive: what agrees with anything has no unset key, and only such fingerprints agree
with themselves. -/

namespace DispatchCache

variable {Ty : Type} [DecidableEq Ty]

namespace TypeKey

theorem agrees_comm (a b : TypeKey Ty) : a.agrees b = b.agrees a := by
  cases a <;> cases b <;> simp [agrees, ContainerKey.agrees, Bool.beq_comm]

theorem agrees_trans {a b c : TypeKey Ty} (hab : a.agrees b = true) (hbc : b.agrees c = true) :
    a.agrees c = true := by
  cases a <;> cases b <;> cases c <;> simp_all [agrees, ContainerKey.agrees]

theorem isSet_of_agrees {a b : TypeKey Ty} (h : a.agrees b = true) : a.isSet = true := by
  cases a <;> cases b <;> simp_all [agrees, isSet]

end TypeKey

namespace Fingerprint

theorem agreeAll_comm (as bs : List (TypeKey Ty)) : agreeAll as bs = agreeAll bs as := by
  induction as generalizing bs with
  | nil => cases bs <;> rfl
  | cons a as ih =>
    cases bs with
    | nil => rfl
    | cons b bs => simp only [agreeAll, TypeKey.agrees_comm a b, ih bs]

theorem agreeAll_trans {as bs cs : List (TypeKey Ty)} (hab : agreeAll as bs = true)
    (hbc : agreeAll bs cs = true) : agreeAll as cs = true := by
  induction as generalizing bs cs with
  | nil => cases bs <;> simp_all [agreeAll]
  | cons a as ih =>
    cases bs with
    | nil => simp [agreeAll] at hab
    | cons b bs =>
      cases cs with
      | nil => simp [agreeAll] at hbc
      | cons c cs =>
        simp only [agreeAll, Bool.and_eq_true] at hab hbc ⊢
        exact ⟨TypeKey.agrees_trans hab.1 hbc.1, ih hab.2 hbc.2⟩

theorem length_eq_of_agreeAll {as bs : List (TypeKey Ty)} (h : agreeAll as bs = true) :
    as.length = bs.length := by
  induction as generalizing bs with
  | nil => cases bs <;> simp_all [agreeAll]
  | cons a as ih =>
    cases bs with
    | nil => simp [agreeAll] at h
    | cons b bs =>
      simp only [agreeAll, Bool.and_eq_true] at h
      simp only [List.length_cons, ih h.2]

theorem all_isSet_of_agreeAll {as bs : List (TypeKey Ty)} (h : agreeAll as bs = true) :
    as.all TypeKey.isSet = true := by
  induction as generalizing bs with
  | nil => rfl
  | cons a as ih =>
    cases bs with
    | nil => simp [agreeAll] at h
    | cons b bs =>
      simp only [agreeAll, Bool.and_eq_true] at h
      simp only [List.all_cons, Bool.and_eq_true]
      exact ⟨TypeKey.isSet_of_agrees h.1, ih h.2⟩

theorem agreeAll_self_iff (keys : List (TypeKey Ty)) :
    agreeAll keys keys = true ↔ keys.all TypeKey.isSet = true := by
  induction keys with
  | nil => simp [agreeAll]
  | cons key keys ih =>
    simp only [agreeAll, List.all_cons, Bool.and_eq_true, TypeKey.agrees_self_iff, ih]

theorem agrees_comm (a b : Fingerprint Ty) : a.agrees b = b.agrees a := agreeAll_comm _ _

theorem agrees_trans {a b c : Fingerprint Ty} (hab : a.agrees b = true) (hbc : b.agrees c = true) :
    a.agrees c = true := agreeAll_trans hab hbc

theorem arity_eq_of_agrees {a b : Fingerprint Ty} (h : a.agrees b = true) : a.arity = b.arity :=
  length_eq_of_agreeAll h

/-- What agrees with anything is cacheable. -/
theorem isCacheable_of_agrees {a b : Fingerprint Ty} (h : a.agrees b = true) :
    a.isCacheable = true := all_isSet_of_agreeAll h

theorem agrees_self_iff (print : Fingerprint Ty) :
    print.agrees print = true ↔ print.isCacheable = true := agreeAll_self_iff _

/-- The fingerprint without keys agrees with itself only. -/
theorem agrees_iff_of_arity_zero {a b : Fingerprint Ty} (zero : a.arity = 0) :
    a.agrees b = true ↔ b.arity = 0 := by
  have keys : a.keys = [] := List.length_eq_zero_iff.mp zero
  rw [agrees, arity, keys]
  cases b.keys <;> simp [agreeAll]

section Unset

variable {print : Fingerprint Ty}

omit [DecidableEq Ty] in
theorem isCacheable_eq_false_iff : print.isCacheable = false ↔ .unset ∈ print.keys := by
  rw [isCacheable, List.all_eq_false]
  constructor
  · rintro ⟨key, member, unset⟩
    cases key <;> simp_all [TypeKey.isSet]
  · exact fun member => ⟨.unset, member, Bool.false_ne_true⟩

omit [DecidableEq Ty] in
theorem arity_pos_of_unset (unset : print.isCacheable = false) : 0 < print.arity :=
  List.length_pos_of_mem (isCacheable_eq_false_iff.mp unset)

theorem agrees_of_unset (unset : print.isCacheable = false) (other : Fingerprint Ty) :
    print.agrees other = false ∧ other.agrees print = false := by
  have apart : print.agrees other = false := by
    rw [Bool.eq_false_iff] at unset ⊢
    exact mt isCacheable_of_agrees unset
  exact ⟨apart, agrees_comm other print ▸ apart⟩

end Unset

end Fingerprint

end DispatchCache
