import DispatchCache.Proofs.CallSite.Ending
import DispatchCache.Declared
import DispatchCache.Proofs.Classification.Reading
import Mathlib.Algebra.BigOperators.Fin
import Mathlib.Algebra.BigOperators.Group.Finset.Piecewise
import Mathlib.Algebra.GroupWithZero.Nat

/-! # What a family of call sites counts

Several call sites share one set of counters, and their dispatches come in any order. Between
two of them, and while one of them resolves its call, anything may happen, dispatches of other
sites included. At any time the counters tell what the dispatches did so far and what the
caches of the sites hold, and they balance. -/

namespace DispatchCache.CallSite

variable {World Arg Val Ty R Err Fail : Type} [DecidableEq Ty]

/-- A figure of the world that reading the arguments of a call leaves alone and that resolving
the call raises by one. -/
structure Counts (figure : World → Nat) (host : Host World Arg Val Ty R Err)
    (resolve : Resolver World Arg Ty R Fail) (call : Capture Arg) : Prop where
  reading : ∀ arg ∈ call.positional, ∀ ambient,
    figure ((host.decontainerize arg).eval ambient).2.world = figure ambient.world
  resolving : ∀ ambient, figure ((resolve call).eval ambient).2.world = figure ambient.world + 1

namespace Counts

variable {figure : World → Nat} {host : Host World Arg Val Ty R Err}
variable {resolve : Resolver World Arg Ty R Fail} {call : Capture Arg}

theorem figure_looking (counts : Counts figure host resolve call) (site : CallSite Ty R)
    (ambient : Ambient World Ty R) :
    figure (site.looking host call ambient).2.world = figure ambient.world := by
  have extracted := host.figure_extract figure counts.reading ambient
  rcases looked : site.looking host call ambient with ⟨answer, after⟩
  rcases callLookup_of_looking looked with ⟨-, -, rfl⟩ | ⟨cache, -, way⟩
  · rfl
  · cases way with
    | uncacheable shape => rfl
    | zeroArity shape slot => rfl
    | unread shape read => rwa [read] at extracted
    | read shape read got => rwa [read] at extracted

theorem figure_filing (counts : Counts figure host resolve call) (site : CallSite Ty R)
    (result : R) (ambient : Ambient World Ty R) :
    figure (site.filing host call result ambient).2.world = figure ambient.world := by
  have extracted := host.figure_extract figure counts.reading ambient
  have way := site.opened.callInsert host call result ambient
  change figure ((site.opened.insert host call result).eval ambient).2.world = _
  generalize (site.opened.insert host call result).eval ambient = done at way ⊢
  cases way with
  | uncacheable shape => rfl
  | zeroArity shape => rfl
  | full shape full => rfl
  | unread shape room read => rwa [read] at extracted
  | read shape room read inserted => rwa [read] at extracted

omit [DecidableEq Ty] in
theorem figure_resolving (counts : Counts figure host resolve call)
    (ambient : Ambient World Ty R) :
    figure (CallSite.resolving resolve call ambient).2.world = figure ambient.world + 1 :=
  counts.resolving (ambient.note (.resolving call.arity))

end Counts

/-- Once the resolver was asked, such a figure is up by one. -/
theorem Counts.figure_asked {moment : Moment World Arg Val Ty R Err Fail} {figure : World → Nat}
    (counts : Counts figure moment.host moment.resolve moment.call) {seen mid : Ambient World Ty R}
    {answer : Except Err (Option R)} {result : Except Fail R}
    (looked : moment.site.looking moment.host moment.call moment.ambient = (answer, seen))
    (resolved : CallSite.resolving moment.resolve moment.call seen = (result, mid)) :
    figure mid.world = figure moment.ambient.world + 1 := by
  have looked_eq := counts.figure_looking moment.site moment.ambient
  have resolved_eq := counts.figure_resolving seen
  rw [looked] at looked_eq
  rwa [resolved, looked_eq] at resolved_eq

/-- Such a figure goes up by one in a dispatch that misses and stays as it is in any other. -/
theorem Moment.figure_dispatched (moment : Moment World Arg Val Ty R Err Fail)
    {figure : World → Nat} (counts : Counts figure moment.host moment.resolve moment.call) :
    figure moment.dispatched.2.world =
      figure moment.ambient.world + moment.ending.tally.misses := by
  have follows := moment.course
  have looked_eq := counts.figure_looking moment.site moment.ambient
  have misses := moment.ending.misses_tally_eq_asks
  generalize moment.dispatched = done at follows ⊢
  cases follows with
  | unread looked =>
    rw [looked] at looked_eq
    rw [misses, ending_of_unread looked]
    exact looked_eq
  | hit looked =>
    rw [looked] at looked_eq
    rw [misses, ending_of_hit looked]
    exact looked_eq
  | unresolved looked resolved =>
    rw [misses, ending_of_unresolved looked resolved]
    exact counts.figure_asked looked resolved
  | @unfiled seen result mid _ _ looked resolved filed =>
    have filed_eq := counts.figure_filing moment.site result mid
    rw [filed, counts.figure_asked looked resolved] at filed_eq
    rw [misses, ending_of_unfiled looked resolved filed]
    exact filed_eq
  | @filed seen result mid _ _ _ looked resolved filed =>
    have filed_eq := counts.figure_filing moment.site result mid
    rw [filed, counts.figure_asked looked resolved] at filed_eq
    rw [misses, ending_of_filed looked resolved filed]
    exact filed_eq

/-- Call sites that count together. -/
structure Family (Site Ty R : Type) where
  sites : Site → CallSite Ty R
  counters : Counters := {}

namespace Family

variable {Site : Type} [DecidableEq Site]

omit [DecidableEq Ty] [DecidableEq Site] in
/-- Sites without a cache, each with its own policy. -/
def new (policies : Site → InsertPolicy) : Family Site Ty R :=
  { sites := fun site => CallSite.new (policies site) }

omit [DecidableEq Ty] in
/-- What a dispatch of one site leaves of the family. -/
def after (family : Family Site Ty R) (site : Site) (done : Dispatched Ty R Err Fail) :
    Family Site Ty R where
  sites := Function.update family.sites site done.site
  counters := family.counters + done.tally

omit [DecidableEq Ty] in
theorem counters_after (family : Family Site Ty R) (site : Site)
    (done : Dispatched Ty R Err Fail) :
    (family.after site done).counters = family.counters + done.tally := rfl

/-- The dispatches of a run, the family and the state that they leave. -/
def run : List (Site × Request World Arg Val Ty R Err Fail) → Family Site Ty R →
    Ambient World Ty R →
    List (Moment World Arg Val Ty R Err Fail) × Family Site Ty R × Ambient World Ty R
  | [], family, ambient => ([], family, ambient)
  | (site, request) :: requests, family, ambient =>
    let moment : Moment World Arg Val Ty R Err Fail :=
      ⟨family.sites site, request.before ambient, request.host, request.resolve, request.call⟩
    let rest := run requests (family.after site moment.dispatched.1) moment.dispatched.2
    (moment :: rest.1, rest.2)

variable (requests : List (Site × Request World Arg Val Ty R Err Fail))
variable (family : Family Site Ty R) (ambient : Ambient World Ty R)

/-- A counter that each dispatch raises by one or not at all tells how many do. -/
theorem counter_run {counter : Counters → Nat}
    (additive : ∀ a b, counter (a + b) = counter a + counter b)
    {raises : Moment World Arg Val Ty R Err Fail → Bool}
    (step : ∀ moment : Moment World Arg Val Ty R Err Fail,
      counter moment.ending.tally = if raises moment then 1 else 0) :
    counter (run requests family ambient).2.1.counters =
      counter family.counters + (run requests family ambient).1.countP raises := by
  induction requests generalizing family ambient with
  | nil => rfl
  | cons request requests ih =>
    rcases request with ⟨site, request⟩
    simp only [run, ih, List.countP_cons, after, additive, Moment.tally_dispatched, step]
    omega

/-- Each miss is accounted for. -/
theorem misses_run :
    let (moments, later, _) := run requests family ambient
    later.counters.misses +
        (family.counters.inserts + family.counters.dropped + family.counters.uncacheable) =
      family.counters.misses +
        (later.counters.inserts + later.counters.dropped + later.counters.uncacheable) +
        moments.countP (fun moment => moment.ending = .filed .duplicate) +
        moments.countP (fun moment => moment.ending.failsLate) := by
  induction requests generalizing family ambient with
  | nil => simp [run]
  | cons request requests ih =>
    rcases request with ⟨site, request⟩
    dsimp only [run]
    generalize (⟨family.sites site, request.before ambient, request.host, request.resolve,
      request.call⟩ : Moment World Arg Val Ty R Err Fail) = moment
    have rest := ih (family.after site moment.dispatched.1) moment.dispatched.2
    rw [counters_after, moment.tally_dispatched] at rest
    generalize run requests (family.after site moment.dispatched.1) moment.dispatched.2 = later
      at rest ⊢
    have balance := moment.ending.misses_tally
    simp only [Counters.misses_add, Counters.inserts_add, Counters.dropped_add,
      Counters.uncacheable_add] at rest
    simp only [List.countP_cons, decide_eq_true_eq]
    omega

omit [DecidableEq Ty] in
theorem sum_entries_after [Fintype Site] (site : Site) (done : Dispatched Ty R Err Fail) :
    ∑ other, ((family.after site done).sites other).entries + (family.sites site).entries =
      ∑ other, (family.sites other).entries + done.site.entries := by
  have updated : (fun other => ((family.after site done).sites other).entries) =
      Function.update (fun other => (family.sites other).entries) site done.site.entries := by
    funext other
    by_cases same : other = site
    · subst same
      simp [after]
    · simp [after, same]
  have whole := Finset.add_sum_erase Finset.univ (fun other => (family.sites other).entries)
    (Finset.mem_univ site)
  rw [updated, Finset.sum_update_of_mem (Finset.mem_univ site), ← whole,
    Finset.sdiff_singleton_eq_erase]
  omega

/-- What is counted as inserted is what the sites have more of. -/
theorem inserts_run [Fintype Site] :
    let later := (run requests family ambient).2.1
    ∑ site, (later.sites site).entries + family.counters.inserts =
      ∑ site, (family.sites site).entries + later.counters.inserts := by
  induction requests generalizing family ambient with
  | nil => rfl
  | cons request requests ih =>
    rcases request with ⟨site, request⟩
    dsimp only [run]
    have here : (⟨family.sites site, request.before ambient, request.host, request.resolve,
      request.call⟩ : Moment World Arg Val Ty R Err Fail).site = family.sites site := rfl
    generalize (⟨family.sites site, request.before ambient, request.host, request.resolve,
      request.call⟩ : Moment World Arg Val Ty R Err Fail) = moment at here ⊢
    have rest := ih (family.after site moment.dispatched.1) moment.dispatched.2
    have changed := family.sum_entries_after site moment.dispatched.1
    have grown := moment.entries_dispatched
    rw [counters_after, moment.tally_dispatched, Counters.inserts_add] at rest
    rw [here] at grown
    omega

/-- A figure of the world that the requests count by goes up with the misses. -/
theorem figure_run {figure : World → Nat}
    (counts : ∀ request ∈ requests,
      Counts figure request.2.host request.2.resolve request.2.call ∧
        ∀ ambient, figure (request.2.before ambient).world = figure ambient.world) :
    figure (run requests family ambient).2.2.world + family.counters.misses =
      figure ambient.world + (run requests family ambient).2.1.counters.misses := by
  induction requests generalizing family ambient with
  | nil => rfl
  | cons request requests ih =>
    rcases request with ⟨site, request⟩
    obtain ⟨⟨here, before⟩, later⟩ := List.forall_mem_cons.mp counts
    have step := Moment.figure_dispatched
      ⟨family.sites site, request.before ambient, request.host, request.resolve, request.call⟩ here
    dsimp only [run]
    rw [before] at step
    generalize (⟨family.sites site, request.before ambient, request.host, request.resolve,
      request.call⟩ : Moment World Arg Val Ty R Err Fail) = moment at step ⊢
    have rest := ih (family.after site moment.dispatched.1) moment.dispatched.2 later
    rw [counters_after, moment.tally_dispatched, Counters.misses_add] at rest
    omega

/-- New sites that share new counters, after any number of dispatches in any order. Hits are the
dispatches that a cache answered. Misses are those that asked the resolver, by whatever figure
of the world resolvers can be counted. Inserted is what the caches hold, and uncacheable are the
resolved calls with named arguments or too many. Whatever else was missed was dropped, a
duplicate, or failed after it was looked up; failing in the lookup counts nowhere. -/
theorem counters_run_new [Fintype Site] (policies : Site → InsertPolicy) :
    let (moments, family, later) := run requests (new policies) ambient
    let counters := family.counters
    counters.hits = moments.countP (fun moment => moment.ending = .hit) ∧
    counters.misses = moments.countP (fun moment => moment.ending.asks) ∧
    (∀ figure : World → Nat,
      (∀ request ∈ requests,
        Counts figure request.2.host request.2.resolve request.2.call ∧
          ∀ ambient, figure (request.2.before ambient).world = figure ambient.world) →
      figure later.world = figure ambient.world + counters.misses) ∧
    counters.inserts = ∑ site, (family.sites site).entries ∧
    counters.uncacheable = moments.countP (fun moment =>
      !(moment.call.shape maxArity).isCacheable && moment.resolved.1.isOk) ∧
    counters.misses = counters.inserts + counters.dropped + counters.uncacheable +
      moments.countP (fun moment => moment.ending = .filed .duplicate) +
      moments.countP (fun moment => moment.ending.failsLate) ∧
    ∀ moment ∈ moments, moment.ending = .unread →
      ∀ counters : Counters, counters + moment.dispatched.1.tally = counters := by
  let family : Family Site Ty R := new policies
  have empty : family.counters = {} := rfl
  have vacant : ∑ site, (family.sites site).entries = 0 := Finset.sum_eq_zero fun _ _ => rfl
  refine ⟨?_, ?_, fun figure counts => ?_, ?_, ?_, ?_, fun moment _ unread counters => ?_⟩
  · have each : ∀ moment : Moment World Arg Val Ty R Err Fail,
        moment.ending.tally.hits = if decide (moment.ending = .hit) then 1 else 0 := by
      intro moment
      simp only [moment.ending.hits_tally, decide_eq_true_eq]
    have hits := counter_run requests family ambient Counters.hits_add each
    rwa [empty, Nat.zero_add] at hits
  · have misses := counter_run requests family ambient Counters.misses_add
      (fun moment => moment.ending.misses_tally_eq_asks)
    rwa [empty, Nat.zero_add] at misses
  · exact figure_run requests family ambient counts
  · have inserts := inserts_run requests family ambient
    rw [vacant, empty] at inserts
    simpa using inserts.symm
  · have uncacheable := counter_run requests family ambient Counters.uncacheable_add
      Moment.uncacheable_tally
    rwa [empty, Nat.zero_add] at uncacheable
  · have misses := misses_run requests family ambient
    rw [empty] at misses
    simpa using misses
  · rw [moment.tally_dispatched, unread]
    rfl

/-- Two sites: a result that is stored and then found, a call with a named argument, and an
argument that cannot be read, first for the insert and then for the lookup. -/
theorem declared_run_counters :
    let host : Host Declared.World Declared.Arg Declared.Val Nat String Declared.Unreadable :=
      Declared.host []
    let resolve : Resolver Declared.World Declared.Arg Nat String Empty := fun _ => do
      modify fun ambient => { ambient with world := 0 :: ambient.world }
      return "resolved"
    let object : Capture Declared.Arg := ⟨[{ id := 1, own := some 0, held := some 3 }], []⟩
    let named : Capture Declared.Arg := ⟨[], [("flag", { id := 2 })]⟩
    let unreadable : Capture Declared.Arg := ⟨[{ id := 3, own := some 0 }], []⟩
    let requests : List (Bool × Request Declared.World Declared.Arg Declared.Val Nat String
        Declared.Unreadable Empty) :=
      [(true, ⟨host, resolve, object, id⟩), (true, ⟨host, resolve, object, id⟩),
        (false, ⟨host, resolve, unreadable, id⟩), (true, ⟨host, resolve, named, id⟩),
        (false, ⟨host, resolve, unreadable, id⟩)]
    let (_, family, later) := run requests
      (new fun site => if site then .skipDuplicates else .allowDuplicates) { world := [] }
    family.counters = { hits := 1, misses := 3, inserts := 1, uncacheable := 1 } ∧
    later.world.count 0 = family.counters.misses := by
  intro host resolve object named unreadable requests
  have conserved := counters_run_new requests { world := [] }
    fun site => if site then .skipDuplicates else .allowDuplicates
  have counts : ∀ call : Capture Declared.Arg, (∀ arg ∈ call.positional, arg.id ≠ 0) →
      Counts (fun world => world.count 0) host resolve call := by
    intro call other
    constructor
    case reading =>
      intro arg member ambient
      change List.count 0 ((Declared.read arg).eval ambient).2.world = _
      unfold Declared.read
      cases arg.held <;> exact List.count_cons_of_ne (other arg member)
    case resolving => exact fun ambient => List.count_cons_self
  have each : ∀ request ∈ requests,
      Counts (fun world => world.count 0) request.2.host request.2.resolve request.2.call ∧
        ∀ ambient, (request.2.before ambient).world.count 0 = ambient.world.count 0 := by
    intro request member
    simp only [requests, List.mem_cons, List.not_mem_nil, or_false] at member
    rcases member with rfl | rfl | rfl | rfl | rfl
    all_goals exact ⟨counts _ (by decide), fun _ => rfl⟩
  refine ⟨by decide +kernel, ?_⟩
  have counted := conserved.2.2.1 (fun world => world.count 0) each
  rwa [List.count_nil, Nat.zero_add] at counted

end Family

end DispatchCache.CallSite
