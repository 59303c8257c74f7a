import DispatchCache.Simulation
import DispatchCache.Decimal.Places
import DispatchCache.Json.Writer

/-! # Reports of simulations

A summary for readers, with a note where not every call can be cached, or the same numbers
in JSON. -/

namespace DispatchCache

namespace SimulationReport

/-- What a reader should know about calls that were never cached. -/
inductive Note where
  | neverCached
  | bucketLimit
  deriving DecidableEq, Repr

def Note.text : Note → String
  | .neverCached => s!"arity exceeds {maxArity}; every call resolves in full"
  | .bucketLimit => s!"only {maxPerArity} shapes fit in one bucket"

def note? (report : SimulationReport) : Option Note :=
  if maxArity < report.arity then some .neverCached
  else if 0 < report.arity ∧ maxPerArity < report.shapes then some .bucketLimit
  else none

/-- The words that lines start with. -/
inductive Heading where
  | workload
  | note
  | cache
  | dispatch
  deriving DecidableEq, Repr

def Heading.word : Heading → String
  | .workload => "workload"
  | .note => "note"
  | .cache => "cache"
  | .dispatch => "dispatch"

/-- Headings are bold on terminals, some of them in colour. -/
def Heading.codes : Heading → String
  | .workload | .dispatch => "1"
  | .note => "1;33"
  | .cache => "1;32"

def Heading.render (colours : Bool) (heading : Heading) : String :=
  if colours then "\x1b[" ++ heading.codes ++ "m" ++ heading.word ++ "\x1b[0m" else heading.word

/-- The share of hits in percent, with one place. -/
def hitPercent (report : SimulationReport) : String :=
  Decimal.fixed 1 (report.metrics.hitRate * 100)

def lines (report : SimulationReport) : List (Heading × String) :=
  let metrics := report.metrics
  [(.workload, s!"arity={report.arity} shapes={report.shapes} rounds={report.rounds}")] ++
  (report.note?.map fun note => (.note, note.text)).toList ++
  [(.cache, s!"{metrics.hits} hits / {metrics.misses} misses ({report.hitPercent}%)"),
   (.dispatch, s!"{report.resolutions} resolutions, {report.cachedEntries} entries, " ++
      s!"{metrics.dropped} dropped, {metrics.uncacheable} uncacheable")]

def render (report : SimulationReport) (colours : Bool) : String :=
  String.join (report.lines.map fun (heading, text) =>
    heading.render colours ++ " " ++ text ++ "\n")

def toJsonText (report : SimulationReport) : String :=
  let number (n : Nat) := (toString n).toList
  let metrics := report.metrics
  String.ofList (Json.record
    [("arity", number report.arity),
     ("shapes", number report.shapes),
     ("rounds", number report.rounds),
     ("resolutions", number report.resolutions),
     ("cached_entries", number report.cachedEntries),
     ("metrics", Json.record
       [("hits", number metrics.hits),
        ("misses", number metrics.misses),
        ("inserts", number metrics.inserts),
        ("dropped", number metrics.dropped),
        ("uncacheable", number metrics.uncacheable)] 1)] 0)

end SimulationReport

end DispatchCache
