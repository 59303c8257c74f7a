import DispatchCache.CallSite
import DispatchCache.Config
import DispatchCache.Reference.Model

/-! # Synthetic workloads

A workload is a number of shapes, each a call of the same arity, dispatched round by round
through one call site. -/

namespace DispatchCache

open Reference

structure Workload where
  arity : Nat
  /-- How many calls with different argument types make up a round. -/
  shapes : Nat
  rounds : Nat
  deriving DecidableEq, Repr

structure SimulationReport where
  arity : Nat
  shapes : Nat
  rounds : Nat
  /-- How often a call was resolved in full. -/
  resolutions : Nat
  cachedEntries : Nat
  metrics : Counters
  deriving DecidableEq, Repr

namespace Workload

variable {Extra : Type}

/-- The argument at a place after the first: native integers and strings by turns. -/
def argAt (place : Nat) : Value :=
  if place % 2 = 1 then .intSlot place else .strSlot ("arg" ++ toString place)

/-- The call for one shape. Its class is made even if no argument needs it. -/
def shapeAt (workload : Workload) (shape : Nat) : StateM (State Extra) (Capture Value) := do
  let type ← State.classNamed ("Shape" ++ toString shape)
  let first := .object (.inst type .empty)
  return { positional :=
    (List.range workload.arity).map fun place => if place = 0 then first else argAt place }

def buildShapes (workload : Workload) : StateM (State Extra) (List (Capture Value)) :=
  (List.range workload.shapes).mapM workload.shapeAt

end Workload

/-- What the simulated resolver picks: a candidate named for the first argument's type. -/
def candidateFor (call : Capture Value) : String :=
  let head := (call.positional.head?.bind Value.object?).elim "nullary" fun object =>
    object.type.name
  "candidate:" ++ head

namespace Simulation

/-- The simulated resolver counts its calls in the model's extra state and never fails. -/
def resolve : Resolver (State Nat) Value RuntimeType String Empty := fun call => do
  modify fun ambient =>
    { ambient with world := { ambient.world with extra := ambient.world.extra + 1 } }
  return candidateFor call

/-- Without hooks no user code runs, so one level is deep enough. -/
def host : Host (State Nat) Value Object RuntimeType String ModelError :=
  Reference.host (fun _ object => .done (.ok object)) 1

/-- The call site with what it has counted. -/
structure Progress where
  site : CallSite RuntimeType String
  counters : Counters := {}

abbrev Simulated :=
  ExceptT (DispatchError ModelError Empty) (StateM (Ambient (State Nat) RuntimeType String))

def dispatch (progress : Progress) (call : Capture Value) : Simulated Progress := do
  let outcome ← ExceptT.lift (progress.site.dispatch host resolve call)
  match outcome.answer with
  | .error cause => throw cause
  | .ok _ => return ⟨outcome.site, progress.counters + outcome.tally⟩

def round (calls : List (Capture Value)) (progress : Progress) : Simulated Progress :=
  calls.foldlM dispatch progress

def rounds (calls : List (Capture Value)) : Nat → Progress → Simulated Progress
  | 0, progress => return progress
  | n + 1, progress => do rounds calls n (← round calls progress)

end Simulation

open Simulation in
/-- Runs a workload. Without metrics all counters of the report are zero. -/
def simulate (config : Config) (workload : Workload) : Simulated SimulationReport := do
  let calls ← modifyGet fun ambient =>
    let (calls, world) := workload.buildShapes ambient.world
    (calls, { ambient with world })
  let progress ← rounds calls workload.rounds ⟨CallSite.new config.insertPolicy, {}⟩
  let report : SimulationReport :=
    { arity := workload.arity
      shapes := workload.shapes
      rounds := workload.rounds
      resolutions := (← get).world.extra
      cachedEntries := progress.site.cache.elim 0 Cache.len
      metrics := if config.collectMetrics then progress.counters else {} }
  modify (Ambient.note
    (.simulated report.resolutions report.metrics.hits report.cachedEntries))
  return report

/-- The report of a workload on a new model, with the log of the run. -/
def runSimulation (config : Config) (workload : Workload) :
    Except (DispatchError ModelError Empty) SimulationReport × List LogLine :=
  let (answer, ambient) := simulate config workload { world := State.new 0 }
  (answer, ambient.log.toList.map Event.line)

end DispatchCache
