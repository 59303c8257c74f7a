import DispatchCache.Proofs.CallSite.Course

/-! # Runs of dispatches

A site is used by one request after the other. Hosts and resolvers may differ from request to
request, and between two of them anything may happen to the ambient state. The history of a
run keeps each dispatch as it is about to begin. -/

namespace DispatchCache.CallSite

/-- One use of a call site. -/
structure Request (World Arg Val Ty R Err Fail : Type) where
  host : Host World Arg Val Ty R Err
  resolve : Resolver World Arg Ty R Fail
  call : Capture Arg
  /-- What happens since the last use. -/
  before : Ambient World Ty R → Ambient World Ty R := id

/-- A dispatch that is about to begin. -/
structure Moment (World Arg Val Ty R Err Fail : Type) where
  site : CallSite Ty R
  ambient : Ambient World Ty R
  host : Host World Arg Val Ty R Err
  resolve : Resolver World Arg Ty R Fail
  call : Capture Arg

variable {World Arg Val Ty R Err Fail : Type} [DecidableEq Ty]

namespace Moment

variable (moment : Moment World Arg Val Ty R Err Fail)

def dispatched : Dispatched Ty R Err Fail × Ambient World Ty R :=
  (moment.site.dispatch moment.host moment.resolve moment.call).run moment.ambient

def looked : Except Err (Option R) × Ambient World Ty R :=
  moment.site.looking moment.host moment.call moment.ambient

/-- What the resolver would answer once the call was looked up, whether it is asked or not. -/
def resolved : Except Fail R × Ambient World Ty R :=
  resolving moment.resolve moment.call moment.looked.2

theorem course : Course moment.site moment.host moment.resolve moment.call moment.ambient
    moment.dispatched := CallSite.course _ _ _ _ _

variable {moment} in
theorem resolved_of_looking {answer : Except Err (Option R)} {seen : Ambient World Ty R}
    (looking : moment.site.looking moment.host moment.call moment.ambient = (answer, seen)) :
    moment.resolved = resolving moment.resolve moment.call seen := by
  rw [resolved, looked, looking]

end Moment

/-- The dispatches of a run, in order. -/
def history : List (Request World Arg Val Ty R Err Fail) → CallSite Ty R → Ambient World Ty R →
    List (Moment World Arg Val Ty R Err Fail)
  | [], _, _ => []
  | request :: requests, site, ambient =>
    let moment : Moment World Arg Val Ty R Err Fail :=
      ⟨site, request.before ambient, request.host, request.resolve, request.call⟩
    moment :: history requests moment.dispatched.1.site moment.dispatched.2

/-- What holds of the first site and is kept by every dispatch holds of every site of a run. -/
theorem history_invariant (keeps : CallSite Ty R → Prop)
    {requests : List (Request World Arg Val Ty R Err Fail)} {site : CallSite Ty R}
    {ambient : Ambient World Ty R} (start : keeps site)
    (step : ∀ moment ∈ history requests site ambient, keeps moment.site →
      keeps moment.dispatched.1.site) :
    ∀ moment ∈ history requests site ambient, keeps moment.site := by
  induction requests generalizing site ambient with
  | nil => simp [history]
  | cons request requests ih =>
    simp only [history, List.mem_cons, forall_eq_or_imp] at step ⊢
    exact ⟨start, ih (step.1 start) step.2⟩

end DispatchCache.CallSite
