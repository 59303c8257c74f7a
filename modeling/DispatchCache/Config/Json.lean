import DispatchCache.Config
import DispatchCache.Json.Writer

/-! # Configurations in JSON

Read from an object with any of the known fields, or from the list of their values in order.
What is left out keeps its default, and unknown fields are passed over. -/

namespace DispatchCache

/-- A policy by name, or as the one key of an object without a value. -/
def InsertPolicy.ofJson? : Json → Option InsertPolicy
  | .string (some name) => ofName? name
  | .object [(some name, .null)] => ofName? name
  | _ => none

def Json.bool? : Json → Option Bool
  | .bool value => some value
  | _ => none

def Json.string? : Json → Option String
  | .string text => text
  | _ => none

/-- The value of a field that may be missing but not repeated. -/
def Json.optionalField {α : Type} (fields : List (Option String × Json)) (key : String)
    (missing : α) (read : Json → Option α) : Option α :=
  match Json.valuesOf fields key with
  | [] => some missing
  | [value] => read value
  | _ => none

namespace Config

def ofFields? (fields : List (Option String × Json)) : Option Config :=
  if fields.any (·.1.isNone) then none
  else do
    let defaults : Config := {}
    let insertPolicy ←
      Json.optionalField fields "insert_policy" defaults.insertPolicy InsertPolicy.ofJson?
    let collectMetrics ←
      Json.optionalField fields "collect_metrics" defaults.collectMetrics Json.bool?
    let logFilter ← Json.optionalField fields "log_filter" defaults.logFilter Json.string?
    return { insertPolicy, collectMetrics, logFilter }

def ofItems? : List Json → Option Config
  | [] => some {}
  | [policy] => do return { insertPolicy := ← InsertPolicy.ofJson? policy }
  | [policy, metrics] => do
    return { insertPolicy := ← InsertPolicy.ofJson? policy, collectMetrics := ← metrics.bool? }
  | [policy, metrics, filter] => do
    return {
      insertPolicy := ← InsertPolicy.ofJson? policy
      collectMetrics := ← metrics.bool?
      logFilter := ← filter.string? }
  | _ => none

def ofJson? : Json → Option Config
  | .object fields => ofFields? fields
  | .array items => ofItems? items
  | _ => none

/-- The configuration that a JSON text holds. -/
def ofJsonText? (text : String) : Option Config := (Json.parse? text).bind ofJson?

/-- A configuration as a JSON object over several lines. -/
def toJsonText (config : Config) : String :=
  String.ofList (Json.record
    [("insert_policy", Json.quoted config.insertPolicy.name),
     ("collect_metrics", (toString config.collectMetrics).toList),
     ("log_filter", Json.quoted config.logFilter)] 0)

end Config

end DispatchCache
