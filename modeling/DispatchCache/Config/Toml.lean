import DispatchCache.Config
import DispatchCache.Toml.Document

/-! # Configurations in TOML

The known fields of a document's top level; what is left out keeps its default. -/

namespace DispatchCache

/-- An empty array or table, which may stand behind the name of a policy. -/
def Toml.isVoid : Toml → Bool
  | .array [] | .inline [] | .table _ [] => true
  | _ => false

def InsertPolicy.ofTomlEntries? : Toml.Entries → Option InsertPolicy
  | [(name, content)] => if content.isVoid then ofName? name else none
  | _ => none

/-- A policy by name, or as the one key of a table. -/
def InsertPolicy.ofToml? : Toml → Option InsertPolicy
  | .string name => ofName? name
  | .inline entries | .table _ entries => ofTomlEntries? entries
  | _ => none

def Toml.boolean? : Toml → Option Bool
  | .boolean value => some value
  | _ => none

def Toml.string? : Toml → Option String
  | .string text => some text
  | _ => none

namespace Config

def ofTomlEntries? (entries : Toml.Entries) : Option Config := do
  let defaults : Config := {}
  let field {α : Type} (key : String) (missing : α) (read : Toml → Option α) : Option α :=
    (entries.lookup key).elim (some missing) read
  let insertPolicy ← field "insert_policy" defaults.insertPolicy InsertPolicy.ofToml?
  let collectMetrics ← field "collect_metrics" defaults.collectMetrics Toml.boolean?
  let logFilter ← field "log_filter" defaults.logFilter Toml.string?
  return { insertPolicy, collectMetrics, logFilter }

/-- The configuration that a TOML document holds. -/
def ofTomlText? (text : String) : Option Config := (Toml.parse? text).bind ofTomlEntries?

end Config

end DispatchCache
