import DispatchCache.Proofs.Simulation.Filling

/-! # The simulation in closed form

A simulation never fails, and what it reports depends on the sizes of the workload alone. The
policy for fingerprints that are known makes no difference, since no such fingerprint is filed. -/

namespace DispatchCache

open Reference Simulation

namespace Workload

/-- What dispatching a workload counts. -/
def counted (workload : Workload) : Counters :=
  let kept := min workload.shapes maxPerArity
  let left := workload.shapes - kept
  let calls := workload.shapes * workload.rounds
  if calls = 0 then {}
  else if workload.arity = 0 then { hits := calls - 1, misses := 1, inserts := 1 }
  else if workload.arity ≤ maxArity then
    { hits := kept * (workload.rounds - 1)
      misses := kept + left * workload.rounds
      inserts := kept
      dropped := left * workload.rounds }
  else { misses := calls, uncacheable := calls }

/-- The report of a workload. The resolver runs once for each miss, and the cache ends with what
was inserted; without metrics the counters are not shown. -/
def reported (workload : Workload) (config : Config) : SimulationReport where
  arity := workload.arity
  shapes := workload.shapes
  rounds := workload.rounds
  resolutions := workload.counted.misses
  cachedEntries := workload.counted.inserts
  metrics := if config.collectMetrics then workload.counted else {}

end Workload

namespace Simulation

variable {calls : List (Capture Value)}

theorem serves_all_wide {arity : Nat}
    (wide : ∀ call ∈ calls, call.shape maxArity = .tooWide arity) :
    Serves (fun _ => True) calls { misses := calls.length, uncacheable := calls.length }
      (fun _ => True) := by
  have whole := Serves.each fun call member => serves_wide (wide call member)
  simpa [Counters.times] using whole

theorem serves_all_nullary (zero : ∀ call ∈ calls, call.shape maxArity = .zeroArity)
    (nonempty : calls ≠ []) :
    Serves (fun site => site.opened.zeroArity = none) calls
      { hits := calls.length - 1, misses := 1, inserts := 1 }
      (fun site => site.opened.zeroArity.isSome = true) := by
  cases calls with
  | nil => exact absurd rfl nonempty
  | cons call calls =>
    obtain ⟨first, rest⟩ := List.forall_mem_cons.mp zero
    have later := Serves.each fun call member => serves_next_nullary (rest call member)
    have whole := (serves_first_nullary first).append later
    simpa [Counters.times, Counters.mk_add_mk] using whole

section Positional

variable {workload : Workload} {types : List RuntimeType}
variable (pos : 0 < workload.arity) (narrow : workload.arity ≤ maxArity) (distinct : types.Nodup)

include pos narrow distinct

/-- Classes that found the bucket full are missed forever. -/
theorem serves_left :
    Serves (Holds workload (types.take maxPerArity))
      ((types.drop maxPerArity).map workload.callOf)
      { misses := types.length - maxPerArity, dropped := types.length - maxPerArity }
      (Holds workload (types.take maxPerArity)) := by
  have each : ∀ call ∈ (types.drop maxPerArity).map workload.callOf,
      Serves (Holds workload (types.take maxPerArity)) [call] { misses := 1, dropped := 1 }
        (Holds workload (types.take maxPerArity)) := by
    simp only [List.mem_map]
    rintro call ⟨type, member, rfl⟩
    have fresh : type ∉ types.take maxPerArity := fun kept =>
      List.disjoint_take_drop distinct (Nat.le_refl _) kept member
    have full : (types.take maxPerArity).length = maxPerArity := by
      have further := List.length_pos_of_mem member
      rw [List.length_drop] at further
      rw [List.length_take]
      omega
    exact serves_crowded pos narrow fresh full
  simpa [Counters.times] using Serves.each each

/-- The first round fills the bucket. -/
theorem serves_first_round :
    Serves (Holds workload []) (types.map workload.callOf)
      { misses := types.length
        inserts := min maxPerArity types.length
        dropped := types.length - maxPerArity }
      (Holds workload (types.take maxPerArity)) := by
  have filling := serves_filling pos narrow (distinct.sublist (List.take_sublist maxPerArity types))
    (List.length_take_le _ _)
  have whole := filling.append (serves_left pos narrow distinct)
  have sum : min maxPerArity types.length + (types.length - maxPerArity) = types.length := by
    omega
  rw [← List.map_append, List.take_append_drop, List.length_take] at whole
  simpa [Counters.mk_add_mk, sum] using whole

/-- Every later round finds what the first has filed, and nothing else. -/
theorem serves_later_round :
    Serves (Holds workload (types.take maxPerArity)) (types.map workload.callOf)
      { hits := min maxPerArity types.length
        misses := types.length - maxPerArity
        dropped := types.length - maxPerArity }
      (Holds workload (types.take maxPerArity)) := by
  have each : ∀ call ∈ (types.take maxPerArity).map workload.callOf,
      Serves (Holds workload (types.take maxPerArity)) [call] { hits := 1 }
        (Holds workload (types.take maxPerArity)) := by
    simp only [List.mem_map]
    rintro call ⟨type, member, rfl⟩
    exact serves_known pos narrow member
  have whole := (Serves.each each).append (serves_left pos narrow distinct)
  rw [← List.map_append, List.take_append_drop, List.length_map, List.length_take] at whole
  simpa [Counters.times, Counters.mk_add_mk] using whole

/-- The bucket is filled once and then asked over and over. -/
theorem serves_rounds (further : Nat) :
    let kept := min maxPerArity types.length
    let left := types.length - maxPerArity
    Serves (Holds workload [])
      (List.replicate (further + 1) (types.map workload.callOf)).flatten
      { hits := kept * further
        misses := kept + left * (further + 1)
        inserts := kept
        dropped := left * (further + 1) }
      (Holds workload (types.take maxPerArity)) := by
  intro kept left
  have first := serves_first_round pos narrow distinct
  have later := (serves_later_round pos narrow distinct).replicate further
  have whole := first.append later
  have misses : types.length + further * left = kept + left * (further + 1) := by
    rw [Nat.mul_succ, Nat.mul_comm]
    omega
  have dropped : left + further * left = left * (further + 1) := by
    rw [Nat.mul_succ, Nat.mul_comm, Nat.add_comm]
  rw [List.replicate_succ, List.flatten_cons, ← misses, ← dropped, Nat.mul_comm kept]
  simpa only [Counters.times, Counters.mk_add_mk, Nat.zero_add, Nat.add_zero, Nat.mul_zero] using
    whole

end Positional

end Simulation

namespace Workload

/-- The calls of all rounds, for the classes of the shapes. -/
def allCalls (workload : Workload) (types : List RuntimeType) : List (Capture Value) :=
  (List.replicate workload.rounds (types.map workload.callOf)).flatten

theorem length_allCalls (workload : Workload) (types : List RuntimeType) :
    (workload.allCalls types).length = types.length * workload.rounds := by
  simp [allCalls, Nat.mul_comm]

theorem shape_of_mem_allCalls {workload : Workload} {types : List RuntimeType}
    {call : Capture Value} (member : call ∈ workload.allCalls types) :
    call.shape maxArity =
      if workload.arity = 0 then .zeroArity
      else if maxArity < workload.arity then .tooWide workload.arity
      else .positional workload.arity := by
  obtain ⟨round, isRound, member⟩ := List.mem_flatten.mp member
  obtain rfl := List.eq_of_mem_replicate isRound
  obtain ⟨type, -, rfl⟩ := List.mem_map.mp member
  exact workload.shape_callOf type

end Workload

namespace Simulation

/-- All calls of a workload, from a site without a cache. -/
theorem serves_workload {workload : Workload} (policy : InsertPolicy) {types : List RuntimeType}
    (distinct : types.Nodup) (many : types.length = workload.shapes) :
    Serves (fun site => site = CallSite.new policy) (workload.allCalls types) workload.counted
      (fun _ => True) := by
  have size := workload.length_allCalls types
  rw [many] at size
  simp only [Workload.counted, ← size]
  split_ifs with idle zero narrow
  · rw [List.length_eq_zero_iff.mp idle]
    exact Serves.nil.mono (fun _ _ => trivial) fun _ _ => trivial
  · have nullary := serves_all_nullary
      (fun call member => (Workload.shape_of_mem_allCalls member).trans (if_pos zero))
      (fun empty => idle (List.length_eq_zero_iff.mpr empty))
    refine nullary.mono ?_ fun _ _ => trivial
    rintro site rfl
    rfl
  · obtain ⟨further, rounds⟩ : ∃ further, workload.rounds = further + 1 := by
      refine Nat.exists_eq_succ_of_ne_zero fun empty => idle ?_
      rw [size, empty, Nat.mul_zero]
    have whole := serves_rounds (Nat.pos_of_ne_zero zero) narrow distinct further
    have left : workload.shapes - min workload.shapes maxPerArity =
        types.length - maxPerArity := by omega
    rw [Workload.allCalls, rounds, left, Nat.add_sub_cancel, ← many, Nat.min_comm]
    refine whole.mono ?_ fun _ _ => trivial
    rintro site rfl
    exact Cache.bucket_empty policy workload.arity
  · have wide := serves_all_wide fun call (member : call ∈ workload.allCalls types) =>
      (Workload.shape_of_mem_allCalls member).trans
        ((if_neg zero).trans (if_pos (Nat.not_le.mp narrow)))
    exact wide.mono (fun _ _ => trivial) fun _ _ => trivial

end Simulation

theorem exists_eval_simulate (config : Config) (workload : Workload) :
    ∃ after, Run.eval (simulate config workload) { world := State.new 0 } =
      (.ok (workload.reported config), after) := by
  obtain ⟨types, world, built, names, distinct, fresh⟩ := workload.run_buildShapes (State.new 0)
  have many : types.length = workload.shapes := by
    rw [← List.length_map RuntimeType.name, names, List.length_map, List.length_range]
  let build := fun ambient : Ambient (State Nat) RuntimeType String =>
    ((workload.buildShapes ambient.world).1,
      { ambient with world := (workload.buildShapes ambient.world).2 })
  have made : Run.eval (modifyGet build : Simulated (List (Capture Value)))
      { world := State.new 0 } = (.ok (types.map workload.callOf), { world }) :=
    congrArg (fun pair => (Except.ok pair.1, ({ world := pair.2 } : Ambient _ _ _))) built
  obtain ⟨site, left, run, -, extra, entries⟩ := serves_workload config.insertPolicy distinct many
    ⟨CallSite.new config.insertPolicy, {}⟩ { world } rfl
  rw [Counters.empty_add] at run
  rw [show (⟨CallSite.new config.insertPolicy, {}⟩ : Progress).site.entries = 0 from rfl,
    Nat.zero_add] at entries
  rw [fresh, show (State.new 0 : State Nat).extra = 0 from rfl, Nat.zero_add] at extra
  have dispatched : Run.eval (rounds (types.map workload.callOf) workload.rounds
      ⟨CallSite.new config.insertPolicy, {}⟩) { world } = (.ok ⟨site, workload.counted⟩, left) := by
    rw [rounds_eq_round]
    exact run
  rw [Workload.reported, ← extra, ← entries]
  exact ⟨_, (Run.eval_bind_ok _ made).trans (Run.eval_bind_ok _ dispatched)⟩

/-- The simulation in closed form, for every configuration and workload: it never fails, and its
report is told by the sizes of the workload and by whether metrics are collected. -/
theorem runSimulation_eq (config : Config) (workload : Workload) :
    (runSimulation config workload).1 = .ok (workload.reported config) := by
  obtain ⟨after, evaluated⟩ := exists_eval_simulate config workload
  exact congrArg Prod.fst evaluated

/-- Four of twenty shapes find the bucket full in each of three rounds. -/
example : (⟨2, 20, 3⟩ : Workload).counted =
    { hits := 32, misses := 28, inserts := 16, dropped := 12 } := by decide

end DispatchCache
