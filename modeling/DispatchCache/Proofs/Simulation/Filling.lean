import DispatchCache.Proofs.Simulation.Rounds
import DispatchCache.Proofs.Simulation.Shapes

/-! # How shapes fill a cache

One simulated dispatch is a hit, or it misses and its candidate is filed. Calls that are too
wide are missed forever, and those without arguments once. Of the shapes in between, each is
missed until it is in the bucket, and those that find the bucket full are missed forever. -/

namespace DispatchCache.Simulation

open Reference

variable {call : Capture Value} {site : CallSite RuntimeType String}

/-- A simulated dispatch that misses files the candidate of its call. -/
theorem exists_dispatch_of_miss {ambient seen : Ambient (State Nat) RuntimeType String}
    {outcome : InsertOutcome} {cache : Cache RuntimeType String}
    (looked : site.looking host call ambient = (.ok none, seen))
    (filed : ∀ mid, ∃ left, site.filing host call (candidateFor call) mid =
      (.ok (outcome, cache), left)) :
    ∃ left, (site.dispatch host resolve call).run ambient =
      (⟨.ok (candidateFor call), { site with cache := some cache }, .miss + .ofOutcome outcome⟩,
        left) := by
  obtain ⟨left, filed⟩ := filed (CallSite.resolving resolve call seen).2
  have resolved : CallSite.resolving resolve call seen =
      (.ok (candidateFor call), (CallSite.resolving resolve call seen).2) := rfl
  exact ⟨left, (CallSite.dispatch_of_resolved looked resolved).trans (CallSite.file_of_filed filed)⟩

/-- A call that is too wide is missed, and nothing is filed for it. -/
theorem serves_wide {arity : Nat} (shape : call.shape maxArity = .tooWide arity) :
    Serves (fun _ => True) [call] { misses := 1, uncacheable := 1 } (fun _ => True) := by
  apply Serves.of_dispatch
  intro site ambient _
  have refused : (call.shape maxArity).isCacheable = false := by rw [shape]; rfl
  have looked := site.looking_of_uncacheable host ambient refused
  have filed : ∀ mid, ∃ left, site.filing host call (candidateFor call) mid =
      (.ok (.dropped .tooManyArguments, site.opened), left) := by
    intro mid
    refine ⟨mid, ?_⟩
    simp only [CallSite.filing, Cache.insert, shape]
    rfl
  obtain ⟨left, done⟩ := exists_dispatch_of_miss looked filed
  exact ⟨_, _, left, done, trivial⟩

section NoArguments

variable (shape : call.shape maxArity = .zeroArity)

include shape

theorem serves_first_nullary :
    Serves (fun site => site.opened.zeroArity = none) [call] { misses := 1, inserts := 1 }
      (fun site => site.opened.zeroArity.isSome = true) := by
  apply Serves.of_dispatch
  intro site ambient vacant
  have looked := site.looking_of_zeroArity host ambient shape
  rw [vacant] at looked
  obtain ⟨left, done⟩ := exists_dispatch_of_miss looked fun mid =>
    ⟨mid, Cache.eval_insert_of_zeroArity site.opened host _ mid shape⟩
  exact ⟨_, _, left, done, rfl⟩

theorem serves_next_nullary :
    Serves (fun site => site.opened.zeroArity.isSome = true) [call] { hits := 1 }
      (fun site => site.opened.zeroArity.isSome = true) := by
  apply Serves.of_dispatch
  intro site ambient filled
  obtain ⟨result, slot⟩ := Option.isSome_iff_exists.mp filled
  have looked := site.looking_of_zeroArity host ambient shape
  rw [slot] at looked
  exact ⟨result, site, ambient, CallSite.dispatch_of_hit looked, filled⟩

end NoArguments

theorem exists_eval_extract (workload : Workload) (type : RuntimeType)
    (ambient : Ambient (State Nat) RuntimeType String) :
    ∃ after, (extract host (workload.callOf type).positional).eval ambient =
      (.ok (workload.printOf type), after) :=
  workload.eval_extract_callOf _ 0 type ambient

/-- What is filed for the shape of a class. -/
def entryOf (workload : Workload) (type : RuntimeType) : Entry RuntimeType String :=
  ⟨workload.printOf type, candidateFor (workload.callOf type)⟩

/-- The bucket for the shapes of a workload has the entries of these classes. -/
def Holds (workload : Workload) (types : List RuntimeType) (site : CallSite RuntimeType String) :
    Prop :=
  site.opened.bucket workload.arity = types.map (entryOf workload)

section Arguments

variable {workload : Workload} {types : List RuntimeType} {type : RuntimeType}
variable (pos : 0 < workload.arity)

include pos

/-- A shape is answered exactly if its class is among those that the bucket has entries of. -/
theorem get_eq_none_iff_of_holds (holds : Holds workload types site) :
    site.opened.get (workload.printOf type) = none ↔ type ∉ types := by
  rw [Cache.get_eq_none_iff, workload.arity_printOf, holds]
  simp only [List.mem_map, forall_exists_index, and_imp, forall_apply_eq_imp_iff₂, entryOf,
    Bool.eq_false_iff, ne_eq, workload.agrees_printOf_iff pos]
  exact ⟨fun missed member => missed type member rfl, fun absent other member same =>
    absent (same ▸ member)⟩

variable (narrow : workload.arity ≤ maxArity)

include narrow

theorem positional_callOf (type : RuntimeType) :
    (workload.callOf type).shape maxArity = .positional workload.arity := by
  rw [workload.shape_callOf, if_neg (Nat.ne_of_gt pos), if_neg (Nat.not_lt.mpr narrow)]

theorem serves_known (member : type ∈ types) :
    Serves (Holds workload types) [workload.callOf type] { hits := 1 } (Holds workload types) := by
  apply Serves.of_dispatch
  intro site ambient holds
  obtain ⟨_, read⟩ := exists_eval_extract workload type ambient
  obtain ⟨seen, looked⟩ := site.exists_looking_of_read (positional_callOf pos narrow type) read
  have known : site.opened.get (workload.printOf type) ≠ none :=
    fun missed => (get_eq_none_iff_of_holds pos holds).mp missed member
  obtain ⟨result, answer⟩ := Option.ne_none_iff_exists'.mp known
  rw [answer] at looked
  exact ⟨result, site, seen, CallSite.dispatch_of_hit looked, holds⟩

/-- A shape whose class is not in the bucket is missed, and its entry is inserted into the cache
by the rules of the cache. -/
theorem exists_dispatch_of_fresh (holds : Holds workload types site) (fresh : type ∉ types)
    (ambient : Ambient (State Nat) RuntimeType String) :
    let inserted := site.opened.insertFingerprint (workload.printOf type)
      (candidateFor (workload.callOf type))
    ∃ left, (site.dispatch host resolve (workload.callOf type)).run ambient =
      (⟨.ok (candidateFor (workload.callOf type)), { site with cache := some inserted.2 },
        .miss + .ofOutcome inserted.1⟩, left) := by
  intro inserted
  have shape := positional_callOf pos narrow type
  obtain ⟨_, read⟩ := exists_eval_extract workload type ambient
  obtain ⟨seen, looked⟩ := site.exists_looking_of_read shape read
  rw [(get_eq_none_iff_of_holds pos holds).mpr fresh] at looked
  refine exists_dispatch_of_miss looked fun mid => ?_
  obtain ⟨_, read⟩ := exists_eval_extract workload type mid
  exact site.opened.exists_eval_insert_of_read _ shape read

theorem serves_fresh (fresh : type ∉ types) (room : types.length < maxPerArity) :
    Serves (Holds workload types) [workload.callOf type] { misses := 1, inserts := 1 }
      (Holds workload (types ++ [type])) := by
  apply Serves.of_dispatch
  intro site ambient holds
  obtain ⟨left, done⟩ := exists_dispatch_of_fresh pos narrow holds fresh ambient
  have stored : (site.opened.insertFingerprint (workload.printOf type)
      (candidateFor (workload.callOf type))).1 = .stored := by
    rw [(site.opened.truthful_insertFingerprint _ _).stored, workload.arity_printOf]
    refine ⟨⟨pos, narrow⟩, ?_, fun both => ?_⟩
    · rwa [holds, List.length_map]
    · obtain ⟨entry, member, agrees⟩ := both.2
      have missed := (get_eq_none_iff_of_holds pos holds).mpr fresh
      rw [Cache.get_eq_none_iff, workload.arity_printOf] at missed
      rw [missed entry member] at agrees
      cases agrees
  rw [stored] at done
  refine ⟨_, _, left, done, ?_⟩
  show Cache.bucket _ _ = _
  rw [CallSite.opened, Option.getD_some, Cache.bucket_insertFingerprint, stored,
    workload.arity_printOf, if_pos ⟨rfl, rfl⟩, holds, List.map_append]
  rfl

theorem serves_crowded (fresh : type ∉ types) (full : types.length = maxPerArity) :
    Serves (Holds workload types) [workload.callOf type] { misses := 1, dropped := 1 }
      (Holds workload types) := by
  apply Serves.of_dispatch
  intro site ambient holds
  obtain ⟨left, done⟩ := exists_dispatch_of_fresh pos narrow holds fresh ambient
  have isFull : site.opened.isFull (workload.printOf type).arity = true := by
    rw [Cache.isFull_iff, workload.arity_printOf, holds, List.length_map, full]
  rw [Cache.insertFingerprint_of_full isFull (by rwa [workload.arity_printOf])] at done
  exact ⟨_, _, left, done, holds⟩

/-- New classes fill the bucket one after the other. -/
theorem serves_filling (distinct : types.Nodup) (fits : types.length ≤ maxPerArity) :
    Serves (Holds workload []) (types.map workload.callOf)
      { misses := types.length, inserts := types.length } (Holds workload types) := by
  induction types using List.reverseRecOn with
  | nil => exact Serves.nil
  | append_singleton types type ih =>
    rw [List.nodup_append] at distinct
    obtain ⟨earlier, -, other⟩ := distinct
    have fresh : type ∉ types := fun member => other type member type (by simp) rfl
    rw [List.length_append] at fits
    have first := ih earlier (Nat.le_of_succ_le fits)
    have last := serves_fresh pos narrow fresh fits
    rw [List.map_append, List.length_append]
    exact first.append last

end Arguments

end DispatchCache.Simulation
