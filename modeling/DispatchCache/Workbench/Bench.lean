import DispatchCache.Reference.Model
import DispatchCache.Cache.Shown
import DispatchCache.Workbench.Names

/-! # The workbench

A workbench tries caches out on the reference model. Arguments are described in words,
objects and types have names, and containers may carry hooks whose calls follow a script.
Names are looked up at the moment they are used. -/

namespace DispatchCache.Workbench

open Reference

/-- An argument in words. Types are given by name. -/
inductive ArgSpec where
  | foreign
  | int (value : Int)
  | num (value : Float)
  | str (value : String)
  | intSlot (value : Int)
  | numSlot (value : Float)
  | strSlot (value : String)
  | named (object : String)
  | inst (type : String)
  | typeObject (type : String)
  /-- A new plain container around an instance of the type, or around the type itself. -/
  | contained (type : String) (asTypeObject writable : Bool)
  | intRef (value : Int)

structure CallSpec where
  positional : List ArgSpec := []
  named : List (String × ArgSpec) := []

/-- How a scripted hook ends. -/
inductive HookResult where
  | fetchError (typeName message : String)
  | notAnObject (kind : String)
  | named (object : String)
  /-- The object that the hook was given. -/
  | current

/-- What a scripted hook does on one call, from top to bottom. -/
structure HookAction where
  /-- Pairs of a container and the object that is stored in it. -/
  stores : List (String × String) := []
  find : Option (String × CallSpec) := none
  add : Option (String × CallSpec × String) := none
  result : HookResult := .current

/-- A hook follows its script call by call and repeats the last action from then on. -/
structure Hook where
  name : String
  script : List HookAction
  calls : Nat := 0

def Hook.action (hook : Hook) : HookAction :=
  (hook.script[hook.calls]? <|> hook.script.getLast?).getD {}

/-- What the workbench keeps besides the model and its heap. -/
structure Bench where
  types : Names RuntimeType := {}
  registries : Names Registry := {}
  objects : Names Object := {}
  /-- The places of the shared caches. -/
  shared : Names Nat := {}
  hooks : Array Hook := #[]
  /-- How often a call was resolved in full. -/
  resolutions : Nat := 0
  /-- What hooks and resolvers did, oldest first. -/
  events : Array String := #[]

abbrev World := State Bench

abbrev Code := UserCode World Value String ModelError

section Building

def onBench {α : Type} (action : Bench → α × Bench) : StateM World α :=
  modifyGet fun world =>
    let (seen, bench) := action world.extra
    (seen, { world with extra := bench })

def record (event : String) : StateM World Unit :=
  onBench fun bench => ((), { bench with events := bench.events.push event })

def bindType (name : String) (type : RuntimeType) : StateM World Unit :=
  onBench fun bench => ((), { bench with types := bench.types.bind name type })

def bindObject (name : String) (object : Object) : StateM World Unit :=
  onBench fun bench => ((), { bench with objects := bench.objects.bind name object })

/-- A type by its name on the bench, else the class of that name, made if need be. -/
def typeNamed (name : String) : StateM World RuntimeType := do
  match (← get).extra.types.get? name with
  | some type => return type
  | none => State.classNamed name

def objectNamed? (name : String) : StateM World (Option Object) := do
  return (← get).extra.objects.get? name

def ArgSpec.build : ArgSpec → StateM World Value
  | .foreign => return .foreign
  | .int value => return .int value
  | .num value => return .num value
  | .str value => return .str value
  | .intSlot value => return .intSlot value
  | .numSlot value => return .numSlot value
  | .strSlot value => return .strSlot value
  | .named name => do
    match ← objectNamed? name with
    | some object => return .object object
    | none => return .foreign
  | .inst type => do return .object (.inst (← typeNamed type) .empty)
  | .typeObject type => do return .object (.typeObject (← typeNamed type))
  | .contained type asTypeObject writable => do
    let type ← typeNamed type
    let content := if asTypeObject then .typeObject type else .inst type .empty
    return .object (← State.newScalar content writable)
  | .intRef value => do return .object (← State.newIntRef value)

def CallSpec.build (call : CallSpec) : StateM World (Capture Value) := do
  let positional ← call.positional.mapM ArgSpec.build
  let named ← call.named.mapM fun (name, arg) => do return (name, ← arg.build)
  return { positional, named }

/-- Stores named objects into named containers, one after the other. -/
def storeAll (stores : List (String × String)) : StateM World Unit :=
  stores.forM fun (container, object) => do
    match ← objectNamed? container, ← objectNamed? object with
    | some target, some content => discard (State.store target content)
    | _, _ => return ()

end Building

section Hooks

/-- Counts a call of a hook, reports it and tells what the hook does this time. -/
def Hook.start (hook : Hook) (place : Nat) : StateM World HookAction :=
  modifyGet fun world =>
    let called := { hook with calls := hook.calls + 1 }
    let event := hook.name ++ ":" ++ toString called.calls
    (hook.action,
      { world with extra :=
        { world.extra with
          hooks := world.extra.hooks.setIfInBounds place called
          events := world.extra.events.push event } })

def placeOf (name : String) : StateM World Nat := do
  return ((← get).extra.shared.get? name).getD (← get).extra.shared.bindings.length

/-- The shared cache and the call that a hook means. -/
def target (cache : String) (call : CallSpec) : StateM World (Nat × Capture Value) := do
  let call ← call.build
  return (← placeOf cache, call)

def foundText : Except ModelError (Option String) → String
  | .ok none => "miss"
  | .ok (some result) => "hit " ++ result
  | .error cause => "error " ++ cause.message

def addedText : Except ModelError InsertOutcome → String
  | .ok outcome => outcome.shown
  | .error cause => "error " ++ cause.message

/-- Looks a call up in a shared cache, if asked to, and goes on. -/
def HookAction.finding (action : HookAction) (name : String) (next : Code Object) : Code Object :=
  match action.find with
  | none => next
  | some (cache, call) =>
    .step (target cache call) fun (place, call) =>
      .find place call fun answer =>
        .step (record (name ++ ":find=" ++ foundText answer)) fun () => next

/-- Files a result in a shared cache, if asked to, and goes on. -/
def HookAction.adding (action : HookAction) (name : String) (next : Code Object) : Code Object :=
  match action.add with
  | none => next
  | some (cache, call, result) =>
    .step (target cache call) fun (place, call) =>
      .add place call result fun answer =>
        .step (record (name ++ ":add=" ++ addedText answer)) fun () => next

def HookResult.answer (current : Object) : HookResult → Code Object
  | .fetchError typeName message => .done (.error (.fetch typeName message))
  | .notAnObject kind => .done (.error (.notAnObject kind))
  | .named name => .step (objectNamed? name) fun object => .done (.ok (object.getD current))
  | .current => .done (.ok current)

/-- The scripted hooks by their places on the bench. -/
def hooks : Hooks Bench String := fun place current =>
  .look fun world =>
    match world.extra.hooks[place]? with
    | none => .done (.ok current)
    | some hook =>
      .step (hook.start place) fun action =>
        .step (storeAll action.stores) fun () =>
          action.finding hook.name (action.adding hook.name (action.result.answer current))

/-- Hooks may use shared caches whose arguments run hooks, to this depth. -/
def maxDepth : Nat := 10000

def host : Host World Value Object RuntimeType String ModelError := Reference.host hooks maxDepth

end Hooks

end DispatchCache.Workbench
