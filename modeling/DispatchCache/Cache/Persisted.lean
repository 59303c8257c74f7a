import DispatchCache.Cache
import DispatchCache.Config.Json

/-! # Persisted caches

A cache lives only as long as the program runs. It is written as a placeholder, and whatever
was written is read back as an absent cache, which the next insert makes anew. -/

namespace DispatchCache

variable {Ty R : Type}

def Cache.toJson (_ : Cache Ty R) : Json := .null

/-- Reads a persisted handle. -/
def handleOfJson (_ : Json) : Option (Cache Ty R) := none

/-- A call site as it is persisted: its name and its cache. -/
structure PersistedSite (Ty R : Type) where
  name : String
  cache : Option (Cache Ty R)

/-- Reads an object whose name is required, or the list of name and cache. -/
def PersistedSite.ofJson? : Json → Option (PersistedSite Ty R)
  | .object fields =>
    if fields.any (·.1.isNone) then none
    else do
      let name ← Json.optionalField fields "name" none fun value => value.string?.map some
      let cache ← Json.optionalField fields "cache" none fun value => some (handleOfJson value)
      return ⟨← name, cache⟩
  | .array [name] => do return ⟨← name.string?, none⟩
  | .array [name, cache] => do return ⟨← name.string?, handleOfJson cache⟩
  | _ => none

end DispatchCache
