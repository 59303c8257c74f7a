import DispatchCache.Proofs.CallSite.Conservation
import DispatchCache.Proofs.Reference.Reading
import DispatchCache.Simulation

/-! # What rounds of calls count

In a simulation no dispatch fails. What a sequence of calls does to the call site and what it
counts is put together from what its parts do, down to one dispatch. -/

namespace DispatchCache

open Reference

namespace Counters

/-- The same counters so many times over. -/
def times (counters : Counters) (n : Nat) : Counters where
  hits := n * counters.hits
  misses := n * counters.misses
  inserts := n * counters.inserts
  dropped := n * counters.dropped
  uncacheable := n * counters.uncacheable

theorem mk_add_mk (hits misses inserts dropped uncacheable hits' misses' inserts' dropped'
    uncacheable' : Nat) :
    mk hits misses inserts dropped uncacheable + mk hits' misses' inserts' dropped' uncacheable' =
      mk (hits + hits') (misses + misses') (inserts + inserts') (dropped + dropped')
        (uncacheable + uncacheable') := rfl

theorem empty_add (counters : Counters) : {} + counters = counters := by
  cases counters
  simp only [mk_add_mk, Nat.zero_add]

theorem add_assoc (a b c : Counters) : a + b + c = a + (b + c) := by
  cases a
  cases b
  cases c
  simp only [mk_add_mk, Nat.add_assoc]

theorem times_zero (counters : Counters) : counters.times 0 = {} := by
  simp only [times, Nat.zero_mul]

theorem times_succ (counters : Counters) (n : Nat) :
    counters.times (n + 1) = counters + counters.times n := by
  cases counters
  simp only [times, mk_add_mk, Nat.succ_mul, Nat.add_comm]

end Counters

namespace Simulation

/-- Reading runs no hook that does anything, and the resolver counts its calls. -/
theorem counts (call : Capture Value) : CallSite.Counts State.extra host resolve call where
  reading arg _ ambient := by
    cases arg with
    | object held =>
      change (((held.decontainerize fun _ object => .done (.ok object)).run _).eval
        ambient).2.world.extra = _
      unfold Object.decontainerize
      cases held.container? with
      | none => rfl
      | some container =>
        simp only [Container.fetch]
        cases container.hook <;> rfl
    | _ => rfl
  resolving _ := rfl

variable {before mid after : CallSite RuntimeType String → Prop}
variable {calls later : List (Capture Value)} {counted further : Counters}

/-- From every site of the one kind the calls are all answered. They count `counted` and leave a
site of the other kind. For each miss the resolver was asked once more, and what is inserted is
what the site has more of. -/
def Serves (before : CallSite RuntimeType String → Prop) (calls : List (Capture Value))
    (counted : Counters) (after : CallSite RuntimeType String → Prop) : Prop :=
  ∀ (progress : Progress) (ambient : Ambient (State Nat) RuntimeType String),
    before progress.site → ∃ site left,
      Run.eval (round calls progress) ambient = (.ok ⟨site, progress.counters + counted⟩, left) ∧
      after site ∧
      left.world.extra = ambient.world.extra + counted.misses ∧
      site.entries = progress.site.entries + counted.inserts

namespace Serves

theorem nil : Serves before [] {} before :=
  fun progress ambient start => ⟨progress.site, ambient, rfl, start, rfl, rfl⟩

theorem append (first : Serves before calls counted mid) (rest : Serves mid later further after) :
    Serves before (calls ++ later) (counted + further) after := by
  intro progress ambient start
  obtain ⟨site, left, run, good, extra, entries⟩ := first progress ambient start
  obtain ⟨site', left', run', good', extra', entries'⟩ :=
    rest ⟨site, progress.counters + counted⟩ left good
  refine ⟨site', left', ?_, good', ?_, ?_⟩
  · rw [round, List.foldlM_append]
    exact (Run.eval_bind_ok _ run).trans (Counters.add_assoc _ _ _ ▸ run')
  · rw [extra', extra, Counters.misses_add, Nat.add_assoc]
  · rw [entries', entries, Counters.inserts_add, Nat.add_assoc]

/-- What each of several parts does, all of them do together. -/
theorem flatten {parts : List (List (Capture Value))}
    (each : ∀ part ∈ parts, Serves before part counted before) :
    Serves before parts.flatten (counted.times parts.length) before := by
  induction parts with
  | nil => exact counted.times_zero ▸ nil
  | cons part parts ih =>
    obtain ⟨first, rest⟩ := List.forall_mem_cons.mp each
    rw [List.flatten_cons, List.length_cons, Counters.times_succ]
    exact first.append (ih rest)

theorem replicate (serves : Serves before calls counted before) (n : Nat) :
    Serves before (List.replicate n calls).flatten (counted.times n) before := by
  have parts : ∀ part ∈ List.replicate n calls, Serves before part counted before := by
    intro part member
    rwa [List.eq_of_mem_replicate member]
  have whole := flatten parts
  rwa [List.length_replicate] at whole

/-- What each of several calls does, all of them do together. -/
theorem each (each : ∀ call ∈ calls, Serves before [call] counted before) :
    Serves before calls (counted.times calls.length) before := by
  have parts : ∀ part ∈ calls.map fun call => [call], Serves before part counted before := by
    simpa using each
  have whole := flatten parts
  rwa [List.length_map, ← List.flatMap_def, List.flatMap_singleton'] at whole

theorem mono {wider narrower : CallSite RuntimeType String → Prop}
    (serves : Serves before calls counted after) (start : ∀ site, narrower site → before site)
    (stop : ∀ site, after site → wider site) : Serves narrower calls counted wider := by
  intro progress ambient given
  obtain ⟨site, left, run, good, rest⟩ := serves progress ambient (start _ given)
  exact ⟨site, left, run, stop site good, rest⟩

/-- One dispatch that is answered. What it counts tells how often the resolver was asked and what
was inserted. -/
theorem of_dispatch {call : Capture Value}
    (step : ∀ (site : CallSite RuntimeType String) ambient, before site → ∃ result next left,
      (site.dispatch host resolve call).run ambient = (⟨.ok result, next, counted⟩, left) ∧
        after next) :
    Serves before [call] counted after := by
  intro progress ambient start
  obtain ⟨result, next, left, done, good⟩ := step progress.site ambient start
  let moment : CallSite.Moment (State Nat) Value Object RuntimeType String ModelError Empty :=
    ⟨progress.site, ambient, host, resolve, call⟩
  have dispatched : moment.dispatched = (⟨.ok result, next, counted⟩, left) := done
  have tally := moment.tally_dispatched
  have extra := moment.figure_dispatched (counts call)
  have entries := moment.entries_dispatched
  rw [dispatched] at tally extra entries
  rw [← tally] at extra entries
  refine ⟨next, left, ?_, good, extra, entries⟩
  have lifted : Run.eval (ExceptT.lift (progress.site.dispatch host resolve call) : Simulated _)
      ambient = (.ok ⟨.ok result, next, counted⟩, left) :=
    congrArg (Prod.map Except.ok id) done
  rw [round, List.foldlM_cons]
  refine Run.eval_bind_ok _ ?_
  exact Run.eval_bind_ok _ lifted

end Serves

/-- Rounds are one long round. -/
theorem rounds_eq_round (calls : List (Capture Value)) (n : Nat) (progress : Progress) :
    rounds calls n progress = round (List.replicate n calls).flatten progress := by
  induction n generalizing progress with
  | zero => rfl
  | succ n ih =>
    rw [List.replicate_succ, List.flatten_cons, round, List.foldlM_append, rounds]
    exact congrArg _ (funext ih)

end Simulation

end DispatchCache
