import DispatchCache.Cache

/-! # Counting what caches do

Counters add up: what one dispatch counts is a set of counters of its own. -/

namespace DispatchCache

/-- What was counted. Counters have no bound: they are those of 64 bits as long as fewer than
`2 ^ 64` dispatches were counted, and no such counter has come round. -/
structure Counters where
  hits : Nat := 0
  misses : Nat := 0
  inserts : Nat := 0
  dropped : Nat := 0
  uncacheable : Nat := 0
  deriving DecidableEq, Repr

namespace Counters

instance : Add Counters where
  add a b :=
    ⟨a.hits + b.hits, a.misses + b.misses, a.inserts + b.inserts, a.dropped + b.dropped,
      a.uncacheable + b.uncacheable⟩

def hit : Counters := { hits := 1 }

def miss : Counters := { misses := 1 }

/-- What an insert counts. A duplicate counts nowhere. -/
def ofOutcome : InsertOutcome → Counters
  | .stored | .zeroArity => { inserts := 1 }
  | .duplicate => {}
  | .dropped .bucketFull => { dropped := 1 }
  | .dropped .namedArguments | .dropped .tooManyArguments => { uncacheable := 1 }

def lookups (counters : Counters) : Nat := counters.hits + counters.misses

/-- The share of lookups that hit, 0 if there were none. -/
def hitRate (counters : Counters) : Float :=
  if counters.lookups = 0 then 0
  else counters.hits.toUInt64.toFloat / counters.lookups.toUInt64.toFloat

end Counters

end DispatchCache
