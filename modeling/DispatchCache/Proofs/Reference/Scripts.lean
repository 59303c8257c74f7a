import DispatchCache.Proofs.Classification.Order
import DispatchCache.Proofs.Classification.Reading
import DispatchCache.Proofs.Reference.Cells
import DispatchCache.Reference.Model

/-! # What hooks do to cells

A model leaves open what its hooks do to the state. Here hooks are scripted: a script makes
containers, stores into them, reads them and uses shared caches, and changes the heap in no other
way. Reading a container runs its hook, and so does reading the arguments of a request, so scripts
run within scripts. All that happens to cells in the course of a script is told in order. -/

namespace DispatchCache

namespace UserCode

variable {World Arg Val Ty R Err Mid Out : Type}

/-- Goes on with the answer of a first part, be it a failure. -/
def andThen (next : Except Err Mid → UserCode World Arg R Err Out) :
    UserCode World Arg R Err Mid → UserCode World Arg R Err Out
  | .done answer => next answer
  | .look rest => .look fun world => (rest world).andThen next
  | .change world rest => .change world (rest.andThen next)
  | .find place call rest => .find place call fun answer => (rest answer).andThen next
  | .add place call result rest => .add place call result fun answer => (rest answer).andThen next

theorem mapError_eq_andThen (f : Err → Err) (code : UserCode World Arg R Err Out) :
    code.mapError f = code.andThen fun answer => .done (answer.mapError f) := by
  induction code with
  | done answer => rfl
  | look rest ih => exact congrArg look (funext ih)
  | change world rest ih => exact congrArg (change world) ih
  | find place call rest ih => exact congrArg (find place call) (funext ih)
  | add place call result rest ih => exact congrArg (add place call result) (funext ih)

variable [DecidableEq Ty] (host : Host World Arg Val Ty R Err)

theorem eval_run_done (answer : Except Err Out) (ambient : Ambient World Ty R) :
    ((done answer : UserCode World Arg R Err Out).run host).eval ambient = (answer, ambient) := by
  cases answer <;> rfl

theorem eval_run_andThen (next : Except Err Mid → UserCode World Arg R Err Out)
    (code : UserCode World Arg R Err Mid) (ambient : Ambient World Ty R) :
    ((code.andThen next).run host).eval ambient =
      ((next ((code.run host).eval ambient).1).run host).eval ((code.run host).eval ambient).2 := by
  induction code generalizing ambient with
  | done answer => rw [andThen, eval_run_done]
  | look rest ih => exact ih ambient.world ambient
  | change world rest ih => exact ih { ambient with world }
  | find place call rest ih =>
    rw [andThen, eval_run_find, eval_run_find]
    exact ih _ _
  | add place call result rest ih =>
    rw [andThen, eval_run_add, eval_run_add]
    exact ih _ _

theorem eval_run_mapError (f : Err → Err) (code : UserCode World Arg R Err Out)
    (ambient : Ambient World Ty R) :
    ((code.mapError f).run host).eval ambient =
      (((code.run host).eval ambient).1.mapError f, ((code.run host).eval ambient).2) := by
  rw [mapError_eq_andThen, eval_run_andThen, eval_run_done]

end UserCode

namespace Reference

/-- What a hook does, step by step. -/
inductive Script (Extra R Out : Type) : Type where
  | done (answer : Except ModelError Out)
  | look (next : State Extra → Script Extra R Out)
  /-- Changes the state, except for its heap. -/
  | aside (change : State Extra → State Extra) (next : Script Extra R Out)
  | contain (type : RuntimeType) (held : Object) (writable : Bool)
      (next : Object → Script Extra R Out)
  | store (target object : Object) (next : Bool → Script Extra R Out)
  | read (object : Object) (next : Except ModelError Object → Script Extra R Out)
  | find (place : Nat) (call : Capture Value)
      (next : Except ModelError (Option R) → Script Extra R Out)
  | add (place : Nat) (call : Capture Value) (result : R)
      (next : Except ModelError InsertOutcome → Script Extra R Out)

/-- The script of each hook, which starts with the object that the hook is given. -/
abbrev Scripts (Extra R : Type) := Nat → Object → Script Extra R Object

def State.aside {Extra : Type} (change : State Extra → State Extra) : StateM (State Extra) Unit :=
  modify fun state => { change state with heap := state.heap }

variable {Extra R Out : Type}

/-- The code of a script, where containers are read by `hooks`. -/
def Script.code (hooks : Hooks Extra R) :
    Script Extra R Out → UserCode (State Extra) Value R ModelError Out
  | .done answer => .done answer
  | .look next => .look fun state => (next state).code hooks
  | .aside change next => .step (State.aside change) fun _ => next.code hooks
  | .contain type held writable next =>
    .step (State.newContainer type held writable) fun container => (next container).code hooks
  | .store target object next =>
    .step (State.store target object) fun stored => (next stored).code hooks
  | .read object next =>
    (object.decontainerize hooks).andThen fun answer => (next answer).code hooks
  | .find place call next => .find place call fun answer => (next answer).code hooks
  | .add place call result next => .add place call result fun answer => (next answer).code hooks

/-- Hooks that run their scripts. Scripts that read containers may run within one another to the
depth of `fuel`. -/
def scripted (scripts : Scripts Extra R) : (fuel : Nat) → Hooks Extra R
  | 0 => fun _ _ => .done (.error .tooDeep)
  | fuel + 1 => fun hook object => (scripts hook object).code (scripted scripts fuel)

abbrev ModelAmbient (Extra R : Type) := Ambient (State Extra) RuntimeType R

/-- What an action of the model returns, and the surroundings that it leaves. -/
def perform {α : Type} (action : StateM (State Extra) α) (ambient : ModelAmbient Extra R) :
    α × ModelAmbient Extra R :=
  let (seen, world) := action.run ambient.world
  (seen, { ambient with world })

section Events

/-- What happens when an object is read, where `inside` tells what its hook does. -/
def readEvents (inside : Nat → Object → ModelAmbient Extra R → List CellEvent) (object : Object)
    (ambient : ModelAmbient Extra R) : List CellEvent :=
  object.container?.elim [] fun container =>
    .fetched container (ambient.world.heap.read container.cell) ::
      container.hook.elim [] fun hook =>
        inside hook (ambient.world.heap.read container.cell) ambient

def storeEvents (target object : Object) : List CellEvent :=
  target.container?.elim [] fun container => [.stored container object]

variable (host : Host (State Extra) Value Object RuntimeType R ModelError)
variable (within : Value → ModelAmbient Extra R → List CellEvent)

/-- What happens when arguments are classified, where `within` tells what reading one does. -/
def argEvents (args : List Value) (ambient : ModelAmbient Extra R) : List CellEvent :=
  (host.readings args ambient).flatMap fun reading =>
    if reading.opens then within reading.arg reading.start else []

/-- What happens when a request to a shared cache is served. -/
def requestEvents (place : Nat) (request : CacheRequest Value R) (ambient : ModelAmbient Extra R) :
    List CellEvent :=
  let use : Use (State Extra) Value Object RuntimeType R ModelError :=
    ⟨host, place, request, ambient⟩
  if use.reads then argEvents host within request.call.positional ambient else []

/-- What happens in the course of a script. -/
def Script.events (hooks : Hooks Extra R)
    (inside : Nat → Object → ModelAmbient Extra R → List CellEvent) :
    Script Extra R Out → ModelAmbient Extra R → List CellEvent
  | .done _, _ => []
  | .look next, ambient =>
    .looked ambient.world.heap :: (next ambient.world).events hooks inside ambient
  | .aside change next, ambient => next.events hooks inside (perform (State.aside change) ambient).2
  | .contain type held writable next, ambient =>
    let (container, after) := perform (State.newContainer type held writable) ambient
    .made ambient.world.heap.cells.size held :: (next container).events hooks inside after
  | .store target object next, ambient =>
    let (stored, after) := perform (State.store target object) ambient
    storeEvents target object ++ (next stored).events hooks inside after
  | .read object next, ambient =>
    let (answer, after) := ((object.decontainerize hooks).run host).eval ambient
    readEvents inside object ambient ++ (next answer).events hooks inside after
  | .find place call next, ambient =>
    let (answer, after) := (SharedCache.find host place call).eval ambient
    requestEvents host within place (.find call) ambient ++ (next answer).events hooks inside after
  | .add place call result next, ambient =>
    let (answer, after) := (SharedCache.add host place call result).eval ambient
    requestEvents host within place (.add call result) ambient ++
      (next answer).events hooks inside after

/-- What happens in the course of a hook's script. -/
def hookEvents (scripts : Scripts Extra R) :
    (fuel : Nat) → Nat → Object → ModelAmbient Extra R → List CellEvent
  | 0 => fun _ _ _ => []
  | fuel + 1 => fun hook object =>
    (scripts hook object).events host within (scripted scripts fuel) (hookEvents scripts fuel)

end Events

/-- An account of what happens to cells while a host reads values. -/
structure CellWatch (host : Host (State Extra) Value Object RuntimeType R ModelError) where
  events : Value → ModelAmbient Extra R → List CellEvent
  told : ∀ (value : Value) (ambient : ModelAmbient Extra R),
    ambient.world.heap.Told (events value ambient)
      ((host.decontainerize value).eval ambient).2.world.heap

theorem told_store (target object : Object) (ambient : ModelAmbient Extra R) :
    ambient.world.heap.Told (storeEvents target object)
      (perform (State.store target object) ambient).2.world.heap := by
  unfold storeEvents perform State.store
  cases target.container? with
  | none => exact .nil _
  | some container => exact .single (.stored _ container object)

section Told

variable {host : Host (State Extra) Value Object RuntimeType R ModelError} (watch : CellWatch host)

theorem told_argEvents (args : List Value) (ambient : ModelAmbient Extra R) :
    ambient.world.heap.Told (argEvents host watch.events args ambient)
      ((extract host args).eval ambient).2.world.heap := by
  rw [extract, Run.snd_eval_bind_pure]
  induction args generalizing ambient with
  | nil => exact .nil _
  | cons arg args ih =>
    have first : ambient.world.heap.Told
        (if host.opens arg ambient then watch.events arg ambient else [])
        ((classify host arg).eval ambient).2.world.heap := by
      rw [Host.world_classify, Host.opened]
      split_ifs
      · exact watch.told arg ambient
      · exact .nil _
    rw [argEvents, extractKeys]
    rcases classified : (classify host arg).eval ambient with ⟨cause | key, mid⟩
    · rw [classified] at first
      rw [Host.readings_cons_of_error args classified, Run.eval_bind_error _ classified,
        List.flatMap_cons, List.flatMap_nil, List.append_nil]
      exact first
    · rw [classified] at first
      rw [Host.readings_cons_of_ok args classified, Run.eval_bind_ok _ classified,
        Run.snd_eval_bind_pure, List.flatMap_cons]
      exact first.append (ih mid)

theorem told_requestEvents (place : Nat) (request : CacheRequest Value R)
    (ambient : ModelAmbient Extra R) :
    ambient.world.heap.Told (requestEvents host watch.events place request ambient)
      ((SharedCache.serve host place request).eval ambient).2.world.heap := by
  let use : Use (State Extra) Value Object RuntimeType R ModelError :=
    ⟨host, place, request, ambient⟩
  have kept : use.after.world = use.before.world := by
    rcases use.after_cases with same | ⟨print, accessed⟩
    · rw [same]
    · rw [accessed, Ambient.world_access]
  have before : ambient.world.heap.Told (requestEvents host watch.events place request ambient)
      use.before.world.heap := by
    simp only [requestEvents, Use.before]
    split_ifs
    · exact told_argEvents watch request.call.positional ambient
    · exact .nil _
  rwa [← kept] at before

section Reading

variable (hooks : Hooks Extra R) {object : Object} {container : Container}

theorem eval_read_of_plain (plain : object.container? = none) (ambient : ModelAmbient Extra R) :
    ((object.decontainerize hooks).run host).eval ambient = (.ok object, ambient) := by
  rw [Object.decontainerize, plain]
  rfl

theorem eval_read_of_unhooked (bound : object.container? = some container)
    (unhooked : container.hook = none) (ambient : ModelAmbient Extra R) :
    ((object.decontainerize hooks).run host).eval ambient =
      (.ok (ambient.world.heap.read container.cell), ambient) := by
  rw [Object.decontainerize, bound, UserCode.eval_run_mapError, Container.fetch, unhooked]
  rfl

/-- Reading a container runs its hook on what its cell holds. -/
theorem eval_read_of_hooked {hook : Nat} (bound : object.container? = some container)
    (hooked : container.hook = some hook) (ambient : ModelAmbient Extra R) :
    ((object.decontainerize hooks).run host).eval ambient =
      let ran := ((hooks hook (ambient.world.heap.read container.cell)).run host).eval ambient
      (ran.1.mapError (.inType object.type), ran.2) := by
  rw [Object.decontainerize, bound, UserCode.eval_run_mapError, Container.fetch, hooked]
  rfl

end Reading

section Hooks

variable {hooks : Hooks Extra R} {inside : Nat → Object → ModelAmbient Extra R → List CellEvent}
variable (told : ∀ (hook : Nat) (object : Object) (ambient : ModelAmbient Extra R),
  ambient.world.heap.Told (inside hook object ambient)
    (((hooks hook object).run host).eval ambient).2.world.heap)

include told

theorem told_readEvents (object : Object) (ambient : ModelAmbient Extra R) :
    ambient.world.heap.Told (readEvents inside object ambient)
      (((object.decontainerize hooks).run host).eval ambient).2.world.heap := by
  cases bound : object.container? with
  | none =>
    rw [eval_read_of_plain hooks bound, readEvents, bound]
    exact .nil _
  | some container =>
    rw [readEvents, bound, Option.elim_some]
    cases hooked : container.hook with
    | none =>
      rw [eval_read_of_unhooked hooks bound hooked]
      exact .single (.fetched _ container)
    | some hook =>
      rw [eval_read_of_hooked hooks bound hooked]
      exact .cons (.fetched _ container) (told hook _ ambient)

/-- What happens to cells in the course of a script is told by its events. -/
theorem Script.told_events (script : Script Extra R Out) (ambient : ModelAmbient Extra R) :
    ambient.world.heap.Told (script.events host watch.events hooks inside ambient)
      (((script.code hooks).run host).eval ambient).2.world.heap := by
  induction script generalizing ambient with
  | done answer =>
    rw [code, UserCode.eval_run_done]
    exact .nil _
  | look next ih => exact .cons (.looked _) (ih ambient.world ambient)
  | aside change next ih => exact ih (perform (State.aside change) ambient).2
  | contain type held writable next ih =>
    let made := perform (State.newContainer type held writable) ambient
    exact .cons (.made _ type held writable) (ih made.1 made.2)
  | store target object next ih =>
    exact (told_store target object ambient).append (ih _ _)
  | read object next ih =>
    rw [code, UserCode.eval_run_andThen]
    exact (told_readEvents told object ambient).append (ih _ _)
  | find place call next ih =>
    have served := told_requestEvents watch place (.find call) ambient
    rw [SharedCache.serve, Run.eval_map] at served
    rw [code, UserCode.eval_run_find]
    exact served.append (ih _ _)
  | add place call result next ih =>
    have served := told_requestEvents watch place (.add call result) ambient
    rw [SharedCache.serve, Run.eval_map] at served
    rw [code, UserCode.eval_run_add]
    exact served.append (ih _ _)

end Hooks

theorem told_hookEvents (scripts : Scripts Extra R) (fuel hook : Nat) (object : Object)
    (ambient : ModelAmbient Extra R) :
    ambient.world.heap.Told (hookEvents host watch.events scripts fuel hook object ambient)
      (((scripted scripts fuel hook object).run host).eval ambient).2.world.heap := by
  induction fuel generalizing hook object ambient with
  | zero => exact .nil _
  | succ fuel ih => exact (scripts hook object).told_events watch ih ambient

end Told

/-- The account of the model at each depth. Reading the arguments of a request runs scripts one
level deeper. -/
def cellWatch (scripts : Scripts Extra R) (fuel : Nat) :
    (depth : Nat) → CellWatch (host (scripted scripts fuel) depth)
  | 0 => { events := fun _ _ => [], told := fun _ ambient => .nil ambient.world.heap }
  | depth + 1 =>
    let watch := cellWatch scripts fuel depth
    let inside := hookEvents (host (scripted scripts fuel) depth) watch.events scripts fuel
    { events := fun value ambient =>
        value.object?.elim [] fun object => readEvents inside object ambient
      told := fun value ambient => by
        cases value with
        | object object => exact told_readEvents (told_hookEvents watch scripts fuel) object ambient
        | _ => exact .nil _ }

end Reference

end DispatchCache
