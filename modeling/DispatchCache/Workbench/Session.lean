import DispatchCache.CallSite
import DispatchCache.Config
import DispatchCache.Reference.Shown
import DispatchCache.Workbench.Bench

/-! # Sessions

A session starts from an empty workbench and takes one step after the other. Each step is
answered, and a step that fails does not end the session. -/

namespace DispatchCache.Workbench

open Reference

/-- A key in words. The keys of container slots are those of the named type. -/
inductive KeySpec where
  | nativeInt
  | nativeNum
  | nativeStr
  | unset
  | object (type : String)
  | typeObject (type : String)
  | writableObject (type : String)
  | writableTypeObject (type : String)

/-- Where a new type goes. -/
inductive TypeHome where
  | model
  | unregistered
  | registry (name : String)

/-- What an object is made of. -/
inductive ObjectSpec where
  | copyOf (object : String)
  /-- A container, plain unless a type is given. -/
  | containing (object : String) (type : Option String)
  | intRef (value : Int)
  | typeObject (type : String)
  | inst (type : String) (payload : Payload)

/-- A resolver stores, and then fails, answers as told, or makes an answer up. -/
structure ResolverSpec where
  stores : List (String × String) := []
  fails : Option String := none
  answers : Option String := none

inductive MetricEvent where
  | hit
  | miss
  | outcome (outcome : InsertOutcome)

/-- What can be shown in full. -/
inductive Showable where
  | object (name : String)
  | cache (name : String)
  | fingerprint (name : String)
  | slots (type : String)
  | call (call : CallSpec)
  | arg (arg : ArgSpec)

inductive Step where
  | type (bindTo name : String) (layout : Layout) (home : TypeHome)
  | types (registry : Option String) (names : List String)
  | slots (type : String)
  | sameSlot (a b : String × SlotKind)
  | object (bindTo : String) (spec : ObjectSpec) (writable : Bool) (wrappings : Nat)
      (hook : Option (String × List HookAction))
  | store (object value : String)
  | fetch (object : String)
  | decontainerize (bindTo : Option String) (object : String) (times : Nat)
  | samePayload (a b : String)
  | inspect (arg : ArgSpec)
  | read (arg : ArgSpec)
  | show (what : Showable)
  | shape (call : CallSpec) (maxArity : Nat)
  | classify (arg : ArgSpec)
  | extract (bindTo : String) (args : List ArgSpec)
  | keys (bindTo : String) (keys : List KeySpec)
  | sameFingerprint (a b : String)
  | keyTable (keys : List KeySpec)
  | cache (bindTo : String) (policy : Option InsertPolicy)
  | find (cache : String) (call : CallSpec)
  | add (cache : String) (call : CallSpec) (result : String)
  | lookup (cache : String) (call : CallSpec)
  | insert (cache : String) (call : CallSpec) (result : String)
  | get (cache fingerprint : String)
  | insertFingerprint (cache fingerprint result : String)
  | setZeroArity (cache result : String)
  | bucketLen (cache : String) (arity : Nat)
  | cacheInfo (cache : String)
  | dropCache (cache : String)
  | shared (bindTo : String) (policy : InsertPolicy)
  | sharedFind (shared : String) (call : CallSpec)
  | sharedAdd (shared : String) (call : CallSpec) (result : String)
  | metrics (bindTo : String)
  | record (metrics : String) (events : List MetricEvent)
  | site (bindTo : String) (config : Option Config) (metrics : Option String)
  | dispatch (site : String) (call : CallSpec) (resolver : ResolverSpec)

structure Inspection where
  kind : String
  isObject : Bool
  isStr : Bool
  isInt : Bool
  isNum : Bool
  own : Option RuntimeType
  writable : Bool

inductive Answer where
  | nothing
  | flag (value : Bool)
  | count (value : Nat)
  | text (value : String)
  | type (type : RuntimeType)
  | types (registry : Registry) (found : List (Option RuntimeType))
  | slots (inst typeObject : Bool)
  | sameSlot (equal : Bool) (kinds : List SlotKind)
  | object (object : Object)
  | inspection (inspection : Inspection)
  | value (type : RuntimeType) (isTypeObject : Bool)
  | shape (shape : CallShape) (arity : Nat) (hasNamed : Bool) (named : List (String × String))
  | fingerprint (arity : Nat) (keys : List String) (set : List Bool) (cacheable : Bool)
  | rows (rows : List String)
  | cacheInfo (empty : Bool) (policy : InsertPolicy) (shown : String)
  | counters (counters : Counters)

inductive Failure where
  /-- The handle holds no cache. -/
  | absent
  | model (cause : ModelError)
  | dispatch (cause : DispatchError ModelError String)

/-- A call site with the place of its counters. -/
structure Site where
  site : CallSite RuntimeType String
  meter : Option Nat

abbrev Handle := Option (Cache RuntimeType String)

structure Session where
  ambient : Ambient World RuntimeType String
  handles : Names Handle := {}
  fingerprints : Names (Fingerprint RuntimeType) := {}
  sites : Names Site := {}
  meters : Array Counters := #[]
  meterNames : Names Nat := {}

def Session.start : Session where
  ambient := { world := State.new {} }

abbrev Reply := StateM Session (Except Failure Answer)

section Running

variable {α : Type}

def onWorld (action : StateM World α) : StateM Session α :=
  modifyGet fun session =>
    let (seen, world) := action session.ambient.world
    (seen, { session with ambient := { session.ambient with world } })

def onAmbient (action : StateM (Ambient World RuntimeType String) α) : StateM Session α :=
  modifyGet fun session =>
    let (seen, ambient) := action session.ambient
    (seen, { session with ambient })

/-- Runs something that may fail to read an argument, and replies with what follows. -/
def running (run : Run World RuntimeType String ModelError α) (next : α → Reply) : Reply := do
  match ← onAmbient run.run with
  | .ok value => next value
  | .error cause => return .error (.model cause)

def reply (answer : Answer) : Reply := return .ok answer

def replyText (text : Option String) : Reply := reply (text.elim .nothing .text)

def withObject (name : String) (next : Object → Reply) : Reply := do
  match ← onWorld (objectNamed? name) with
  | some object => next object
  | none => reply .nothing

def handleNamed (name : String) : StateM Session Handle := do
  return ((← get).handles.get? name).join

def bindHandle (name : String) (handle : Handle) : StateM Session Unit :=
  modify fun session => { session with handles := session.handles.bind name handle }

def withCache (name : String) (next : Cache RuntimeType String → Reply) : Reply := do
  match ← handleNamed name with
  | some cache => next cache
  | none => return .error .absent

/-- Runs what works on the cache of a handle. A failure, too, says what the handle has then. -/
def filing (name : String) (run : Run World RuntimeType String (Halted Handle ModelError) α)
    (next : α → Reply) : Reply := do
  match ← onAmbient run.run with
  | .ok value => next value
  | .error halted =>
    bindHandle name halted.left
    return .error (.model halted)

def fingerprintNamed (name : String) : StateM Session (Fingerprint RuntimeType) := do
  return ((← get).fingerprints.get? name).getD ⟨[]⟩

def bindFingerprint (name : String) (fingerprint : Fingerprint RuntimeType) :
    StateM Session Unit :=
  modify fun session =>
    { session with fingerprints := session.fingerprints.bind name fingerprint }

def keyText (key : TypeKey RuntimeType) : StateM Session String := do
  return key.shownBy RuntimeType.label (← get).ambient.slots

def newMeter : StateM Session Nat :=
  modifyGet fun session =>
    (session.meters.size, { session with meters := session.meters.push {} })

def count (meter : Nat) (counters : Counters) : StateM Session Unit :=
  modify fun session => { session with meters := session.meters.modify meter (· + counters) }

def countersAt (meter : Nat) : StateM Session Counters := do
  return (← get).meters[meter]?.getD {}

end Running

section Making

def makeType (name : String) (layout : Layout) : TypeHome → StateM World RuntimeType
  | .model => State.getOrCreate name layout
  | .unregistered => State.newType name layout
  | .registry home =>
    modifyGet fun world =>
      let registry := (world.extra.registries.get? home).getD {}
      let (type, registry, nextId) := registry.getOrCreate world.nextId name layout
      let registries := world.extra.registries.bind home registry
      (type, { world with nextId, extra := { world.extra with registries } })

def registryNamed (home : Option String) : StateM World Registry := do
  match home with
  | none => return (← get).model.registry
  | some name => return ((← get).extra.registries.get? name).getD {}

def ObjectSpec.make (writable : Bool) : ObjectSpec → StateM World Object
  | .copyOf name => do return (← objectNamed? name).getD Heap.placeholder
  | .containing name type => do
    let content := (← objectNamed? name).getD Heap.placeholder
    match type with
    | none => State.newScalar content writable
    | some type => State.newContainer (← typeNamed type) content writable
  | .intRef value => State.newIntRef value
  | .typeObject type => return .typeObject (← typeNamed type)
  | .inst type payload => return .inst (← typeNamed type) payload

def wrapped (writable : Bool) : Nat → Object → StateM World Object
  | 0, object => return object
  | n + 1, object => do wrapped writable n (← State.newScalar object writable)

def hooked (object : Object) : Option (String × List HookAction) → StateM World Object
  | none => return object
  | some (name, script) =>
    onBench fun bench =>
      (object.withHook bench.hooks.size,
        { bench with hooks := bench.hooks.push ⟨name, script, 0⟩ })

/-- The key that is meant, with its slot made if it has one. -/
def KeySpec.make : KeySpec → StateM Session (TypeKey RuntimeType)
  | .nativeInt => return .nativeInt
  | .nativeNum => return .nativeNum
  | .nativeStr => return .nativeStr
  | .unset => return .unset
  | .object type => return .object (← onWorld (typeNamed type))
  | .typeObject type => return .typeObject (← onWorld (typeNamed type))
  | .writableObject type => do
    let type ← onWorld (typeNamed type)
    return .writableObject (← onAmbient (modifyGet (Ambient.slotKey type .inst)))
  | .writableTypeObject type => do
    let type ← onWorld (typeNamed type)
    return .writableTypeObject (← onAmbient (modifyGet (Ambient.slotKey type .typeObject)))

def ResolverSpec.resolve (spec : ResolverSpec) : Resolver World Value RuntimeType String String :=
  fun call => do
    let (number, world) := (do
      let number ← onBench fun bench =>
        (bench.resolutions + 1, { bench with resolutions := bench.resolutions + 1 })
      Workbench.record ("resolve:" ++ toString number)
      storeAll spec.stores
      return number : StateM World Nat) (← Run.world)
    modify fun ambient => { ambient with world }
    match spec.fails, spec.answers with
    | some text, _ => throw text
    | none, some result => return result
    | none, none =>
      return "r" ++ toString number ++ "(" ++
        ",".intercalate (call.positional.map Value.kindName) ++ ")"

def MetricEvent.counters : MetricEvent → Counters
  | .hit => .hit
  | .miss => .miss
  | .outcome counted => .ofOutcome counted

end Making

section Answering

def inspected (value : Value) : Inspection where
  kind := value.kindName
  isObject := value.object?.isSome
  isStr := value.isNativeStr
  isInt := value.isNativeInt
  isNum := value.isNativeNum
  own := value.object?.map Object.type
  writable := value.isWritable

def fingerprintAnswer (fingerprint : Fingerprint RuntimeType) : Reply := do
  let keys ← fingerprint.keys.mapM keyText
  reply (.fingerprint fingerprint.arity keys (fingerprint.keys.map TypeKey.isSet)
    fingerprint.isCacheable)

def Showable.shown : Showable → StateM Session String
  | .object name => do
    let object := (← onWorld (objectNamed? name)).getD Heap.placeholder
    let heap := (← get).ambient.world.heap
    return object.shown heap heap.depth
  | .cache name => do return Text.shownOption ((← handleNamed name).map Cache.shown)
  | .fingerprint name => do return (← fingerprintNamed name).shown RuntimeType.shown
  | .slots type => do
    let type ← onWorld (typeNamed type)
    return (← get).ambient.slots.shown type
  | .call spec => do
    let call ← onWorld spec.build
    return call.shown (Value.shown (← get).ambient.world.heap)
  | .arg spec => do
    let value ← onWorld spec.build
    return value.shown (← get).ambient.world.heap

/-- Takes containers off one by one. -/
def unwrapped : Nat → Object → Run World RuntimeType String ModelError Object
  | 0, object => return object
  | n + 1, object => do unwrapped n (← (object.decontainerize hooks).run host)

def dispatched (name : String) (entry : Site) (call : CallSpec) (resolver : ResolverSpec) :
    Reply := do
  let call ← onWorld call.build
  let outcome : Dispatched RuntimeType String ModelError String ←
    onAmbient (entry.site.dispatch host resolver.resolve call)
  modify fun session =>
    { session with sites := session.sites.bind name { entry with site := outcome.site } }
  if let some meter := entry.meter then
    count meter outcome.tally
  match outcome.answer with
  | .ok result => reply (.text result)
  | .error cause => return .error (.dispatch cause)

def answer : Step → Reply
  | .type bindTo name layout home => do
    let type ← onWorld (makeType name layout home)
    onWorld (bindType bindTo type)
    reply (.type type)
  | .types home names => do
    let registry ← onWorld (registryNamed home)
    reply (.types registry (names.map registry.get?))
  | .slots type => do
    let type ← onWorld (typeNamed type)
    let slots := (← get).ambient.slots
    reply (.slots (slots.isMade type .inst) (slots.isMade type .typeObject))
  | .sameSlot (typeA, kindA) (typeB, kindB) => do
    let typeA ← onWorld (typeNamed typeA)
    let typeB ← onWorld (typeNamed typeB)
    let a ← onAmbient (modifyGet (Ambient.slotKey typeA kindA))
    let b ← onAmbient (modifyGet (Ambient.slotKey typeB kindB))
    reply (.sameSlot (a.agrees b) [a.kind, b.kind])
  | .object bindTo spec writable wrappings hook => do
    let object ← onWorld (spec.make writable)
    let object ← onWorld (wrapped writable wrappings object)
    let object ← onWorld (hooked object hook)
    onWorld (bindObject bindTo object)
    reply (.object object)
  | .store object value =>
    withObject object fun target => withObject value fun content => do
      reply (.flag (← onWorld (State.store target content)))
  | .fetch object =>
    withObject object fun object =>
      match object.container? with
      | none => reply .nothing
      | some container =>
        running ((container.fetch hooks).run host) fun object => reply (.object object)
  | .decontainerize bindTo object times =>
    withObject object fun object =>
      running (unwrapped times object) fun object => do
        if let some name := bindTo then
          onWorld (bindObject name object)
        reply (.object object)
  | .samePayload a b =>
    withObject a fun a => withObject b fun b =>
      match a.body, b.body with
      | .inst a, .inst b => reply (.flag (a.same b))
      | _, _ => reply .nothing
  | .inspect arg => do reply (.inspection (inspected (← onWorld arg.build)))
  | .read arg => do
    let value ← onWorld arg.build
    running (host.decontainerize value) fun object =>
      reply (.value object.type object.isTypeObject)
  | .show what => do reply (.text (← what.shown))
  | .shape call maxArity => do
    let call ← onWorld call.build
    reply (.shape (call.shape maxArity) call.arity call.hasNamed
      (call.named.map fun (name, value) => (name, value.kindName)))
  | .classify arg => do
    let value ← onWorld arg.build
    running (DispatchCache.classify host value) fun key => do reply (.text (← keyText key))
  | .extract bindTo args => do
    let args ← onWorld (args.mapM ArgSpec.build)
    running (DispatchCache.extract host args) fun fingerprint => do
      bindFingerprint bindTo fingerprint
      fingerprintAnswer fingerprint
  | .keys bindTo keys => do
    let fingerprint := ⟨← keys.mapM KeySpec.make⟩
    bindFingerprint bindTo fingerprint
    fingerprintAnswer fingerprint
  | .sameFingerprint a b => do
    reply (.flag ((← fingerprintNamed a).agrees (← fingerprintNamed b)))
  | .keyTable keys => do
    let keys ← keys.mapM KeySpec.make
    reply (.rows (keys.map fun a =>
      String.ofList (keys.map fun b => if a.agrees b.copy then '1' else '0')))
  | .cache bindTo policy => do
    bindHandle bindTo (policy.map Cache.empty)
    reply (policy.elim .nothing (.text ·.name))
  | .find cache call => do
    let call ← onWorld call.build
    running (DispatchCache.find host (← handleNamed cache) call) replyText
  | .add cache call result => do
    let call ← onWorld call.build
    filing cache (DispatchCache.add host (← handleNamed cache) call result) fun added => do
      bindHandle cache (some added)
      reply (.count added.len)
  | .lookup cache call => do
    let call ← onWorld call.build
    withCache cache fun present => running (present.lookup host call) replyText
  | .insert cache call result => do
    let call ← onWorld call.build
    withCache cache fun present =>
      filing cache ((present.insert host call result).adapt (Halted.within some))
        fun (outcome, inserted) => do
          bindHandle cache (some inserted)
          reply (.text outcome.shown)
  | .get cache fingerprint =>
    withCache cache fun present => do
      replyText (present.get (← fingerprintNamed fingerprint))
  | .insertFingerprint cache fingerprint result =>
    withCache cache fun present => do
      running (present.commit (← fingerprintNamed fingerprint).copy result)
        fun (outcome, inserted) => do
          bindHandle cache (some inserted)
          reply (.text outcome.shown)
  | .setZeroArity cache result =>
    withCache cache fun present => do
      bindHandle cache (some (present.setZeroArity result))
      reply .nothing
  | .bucketLen cache arity =>
    withCache cache fun present => reply (.count (present.bucketLen arity))
  | .cacheInfo cache =>
    withCache cache fun present =>
      reply (.cacheInfo present.isEmpty present.policy present.shown)
  | .dropCache cache => do
    let handle ← handleNamed cache
    bindHandle cache none
    reply (.flag handle.isSome)
  | .shared bindTo policy => do
    let place := (← get).ambient.shared.length
    onAmbient (modify fun ambient =>
      { ambient with shared := ambient.shared ++ [SharedCache.empty policy] })
    onWorld (onBench fun bench => ((), { bench with shared := bench.shared.bind bindTo place }))
    reply .nothing
  | .sharedFind shared call => do
    let (place, call) ← onWorld (target shared call)
    running (SharedCache.find host place call) replyText
  | .sharedAdd shared call result => do
    let (place, call) ← onWorld (target shared call)
    running (SharedCache.add host place call result) fun outcome => reply (.text outcome.shown)
  | .metrics bindTo => do
    let meter ← newMeter
    modify fun session => { session with meterNames := session.meterNames.bind bindTo meter }
    reply .nothing
  | .record metrics events => do
    let meter := ((← get).meterNames.get? metrics).getD (← get).meters.size
    events.forM fun event => count meter event.counters
    reply (.counters (← countersAt meter))
  | .site bindTo config metrics => do
    let policy := config.elim default Config.insertPolicy
    let own ← if config.elim false Config.collectMetrics then some <$> newMeter else pure none
    let meter := (metrics.bind (← get).meterNames.get?) <|> own
    modify fun session =>
      { session with sites := session.sites.bind bindTo ⟨CallSite.new policy, meter⟩ }
    reply .nothing
  | .dispatch site call resolver => do
    match (← get).sites.get? site with
    | some entry => dispatched site entry call resolver
    | none => reply .nothing

end Answering

/-- The cache handle that a step is about, by the step's own words. -/
def Step.handle? : Step → Option String
  | .find name _ | .add name _ _ | .lookup name _ | .insert name _ _ | .get name _
  | .insertFingerprint name _ _ | .setZeroArity name _ | .bucketLen name _ | .cacheInfo name
  | .dropCache name | .show (.cache name) => some name
  | _ => none

def Step.site? : Step → Option String
  | .dispatch name _ _ => some name
  | _ => none

def Step.shared? : Step → Option String
  | .sharedFind name _ | .sharedAdd name _ _ => some name
  | _ => none

/-- An answer with what there is to see after the step. -/
structure Outcome where
  answer : Except Failure Answer
  /-- The cache that the step was about, which may be absent. -/
  cache : Option Handle
  shared : Option (SharedCache RuntimeType String)
  /-- The counters of the call site that the step was about, which may have none. -/
  metrics : Option (Option Counters)
  events : List String
  log : List LogLine

/-- Takes one step. Events and log lines are those of this step alone. -/
def Session.step (step : Step) : StateM Session Outcome := do
  onAmbient (modify fun ambient => { ambient with log := #[] })
  onWorld (onBench fun bench => ((), { bench with events := #[] }))
  let answer ← answer step
  let session ← get
  let site := step.site?.bind session.sites.get?
  let bench := session.ambient.world.extra
  return {
    answer
    cache := (step.handle?.bind session.handles.get?) <|> site.map fun entry => entry.site.cache
    shared := (step.shared?.bind bench.shared.get?).map session.ambient.sharedAt
    metrics := site.map fun entry =>
      entry.meter.map fun meter => session.meters[meter]?.getD {}
    events := bench.events.toList
    log := session.ambient.log.toList.map Event.line }

end DispatchCache.Workbench
