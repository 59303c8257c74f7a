import DispatchCache.Slots

/-! # What dispatching reports

Each event has a level, the part of the library it comes from, a message and named fields. -/

namespace DispatchCache

inductive Level where
  | error
  | warn
  | info
  | debug
  | trace
  deriving DecidableEq, Repr

namespace Level

/-- Levels by growing detail. -/
def rank : Level → Nat
  | .error => 1
  | .warn => 2
  | .info => 3
  | .debug => 4
  | .trace => 5

def name : Level → String
  | .error => "ERROR"
  | .warn => "WARN"
  | .info => "INFO"
  | .debug => "DEBUG"
  | .trace => "TRACE"

end Level

/-- One line of the log, with the target that filters select it by. -/
structure LogLine where
  level : Level
  target : String
  message : String
  fields : List (String × String)
  deriving DecidableEq, Repr

namespace LogLine

/-- Level, message and fields, a blank between any two. -/
def render (line : LogLine) : String :=
  " ".intercalate
    (line.level.name :: line.message :: line.fields.map fun (name, value) => name ++ "=" ++ value)

/-- Whether the line has a field. The message is one. -/
def hasField (line : LogLine) (name : String) : Bool :=
  name = "message" || line.fields.any (·.1 = name)

end LogLine

inductive Event where
  | lookup (arity : Nat) (hit : Bool)
  | bucketFull (arity : Nat)
  | resolving (arity : Nat)
  | slotMade (kind : SlotKind)
  | simulated (resolutions hits entries : Nat)
  deriving DecidableEq, Repr

def SlotKind.name : SlotKind → String
  | .inst => "Instance"
  | .typeObject => "TypeObject"

def Event.line : Event → LogLine
  | .lookup arity hit =>
    ⟨.trace, "multicache::dispatch::cache", "dispatch cache lookup",
      [("arity", toString arity), ("hit", toString hit)]⟩
  | .bucketFull arity =>
    ⟨.debug, "multicache::dispatch::cache", "dispatch cache bucket full; dropping insert",
      [("arity", toString arity)]⟩
  | .resolving arity =>
    ⟨.trace, "multicache::dispatch::call_site", "dispatch cache miss; resolving",
      [("arity", toString arity)]⟩
  | .slotMade kind =>
    ⟨.debug, "mcache_model::container_key", "allocating writable-container key",
      [("kind", kind.name)]⟩
  | .simulated resolutions hits entries =>
    ⟨.info, "multicache::simulate", "simulation finished",
      [("resolutions", toString resolutions), ("hits", toString hits),
       ("entries", toString entries)]⟩

end DispatchCache
