import DispatchCache.Cache

/-! # Configuration

What can be set about caches and their surroundings, and the defaults. -/

namespace DispatchCache

structure Config where
  insertPolicy : InsertPolicy := .allowDuplicates
  collectMetrics : Bool := true
  /-- The log filter that applies when the environment sets none. -/
  logFilter : String := "warn"
  deriving DecidableEq, Repr

instance : Inhabited Config := ⟨{}⟩

/-- Policies by the names that configurations use. -/
def InsertPolicy.name : InsertPolicy → String
  | .allowDuplicates => "allow_duplicates"
  | .skipDuplicates => "skip_duplicates"

def InsertPolicy.ofName? (name : String) : Option InsertPolicy :=
  if name = "allow_duplicates" then some .allowDuplicates
  else if name = "skip_duplicates" then some .skipDuplicates
  else none

theorem InsertPolicy.ofName?_name (policy : InsertPolicy) : ofName? policy.name = some policy := by
  cases policy <;> decide

end DispatchCache
