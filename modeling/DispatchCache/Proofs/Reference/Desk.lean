import DispatchCache.Proofs.Reference.Scripts

/-! # Containers as shared variables

Objects are brought to a desk, put into containers, cloned, given hooks, stored and read, in any
order. Clones of a container share its cell and nothing else. At every moment, also in the midst of
a hook, a container is read as the object that was last stored through any of them. -/

namespace DispatchCache.Reference

variable {Extra R : Type}

/-- What the hooks of a model do, and how deep they may call each other. -/
structure Setup (Extra R : Type) where
  scripts : Scripts Extra R
  /-- How deep scripts may read containers within one another. -/
  fuel : Nat
  /-- How deep they may use shared caches within one another. -/
  depth : Nat

namespace Setup

variable (setup : Setup Extra R)

def hooks : Hooks Extra R := scripted setup.scripts setup.fuel

def host : Host (State Extra) Value Object RuntimeType R ModelError :=
  Reference.host setup.hooks setup.depth

def read (object : Object) (ambient : ModelAmbient Extra R) :
    Except ModelError Object × ModelAmbient Extra R :=
  ((object.decontainerize setup.hooks).run setup.host).eval ambient

/-- Runs a hook on the object that it is handed. -/
def run (hook : Nat) (handed : Object) (ambient : ModelAmbient Extra R) :
    Except ModelError Object × ModelAmbient Extra R :=
  ((setup.hooks hook handed).run setup.host).eval ambient

/-- What happens to cells while a hook runs. -/
def inside : Nat → Object → ModelAmbient Extra R → List CellEvent :=
  hookEvents setup.host (cellWatch setup.scripts setup.fuel setup.depth).events setup.scripts
    setup.fuel

theorem told_inside (hook : Nat) (handed : Object) (ambient : ModelAmbient Extra R) :
    ambient.world.heap.Told (setup.inside hook handed ambient)
      (setup.run hook handed ambient).2.world.heap :=
  told_hookEvents (cellWatch setup.scripts setup.fuel setup.depth) _ _ _ _ _

theorem told_read (object : Object) (ambient : ModelAmbient Extra R) :
    ambient.world.heap.Told (readEvents setup.inside object ambient)
      (setup.read object ambient).2.world.heap :=
  told_readEvents setup.told_inside object ambient

variable {object : Object} {container : Container}

theorem read_unhooked (bound : object.container? = some container)
    (unhooked : container.hook = none) (ambient : ModelAmbient Extra R) :
    setup.read object ambient = (.ok (ambient.world.heap.read container.cell), ambient) :=
  eval_read_of_unhooked setup.hooks bound unhooked ambient

end Setup

/-- The objects at hand, in the order in which they came. -/
structure Desk (Extra R : Type) where
  ambient : ModelAmbient Extra R
  objects : List Object := []

/-- Something that is done with the objects on a desk, which are told by their places. -/
inductive Act where
  /-- Puts an object from elsewhere on the desk. -/
  | bring (object : Object)
  | contain (type : RuntimeType) (held : Nat) (writable : Bool)
  | clone (source : Nat)
  | attach (source hook : Nat)
  | store (target value : Nat)
  /-- Takes one container off, and puts what comes out on the desk. -/
  | read (source : Nat)

namespace Desk

variable (setup : Setup Extra R) (desk : Desk Extra R)

def heap : Heap := desk.ambient.world.heap

def put (object : Object) : Desk Extra R := { desk with objects := desk.objects ++ [object] }

/-- Does nothing where there is no object. -/
def taking (place : Nat) (next : Object → Desk Extra R) : Desk Extra R :=
  desk.objects[place]?.elim desk next

def step : Act → Desk Extra R
  | .bring object => desk.put object
  | .contain type held writable =>
    desk.taking held fun object =>
      let (container, ambient) := perform (State.newContainer type object writable) desk.ambient
      { desk with ambient }.put container
  | .clone source => desk.taking source desk.put
  | .attach source hook => desk.taking source fun object => desk.put (object.withHook hook)
  | .store target value =>
    desk.taking target fun container =>
      desk.taking value fun object =>
        { desk with ambient := (perform (State.store container object) desk.ambient).2 }
  | .read source =>
    desk.taking source fun object =>
      match setup.read object desk.ambient with
      | (.ok held, ambient) => { desk with ambient }.put held
      | (.error _, ambient) => { desk with ambient }

/-- What an act does to cells. -/
def stepEvents : Act → List CellEvent
  | .bring _ | .clone _ | .attach _ _ => []
  | .contain _ held _ =>
    desk.objects[held]?.elim [] fun object => [.made desk.heap.cells.size object]
  | .store target value =>
    desk.objects[target]?.elim [] fun container =>
      desk.objects[value]?.elim [] fun object => storeEvents container object
  | .read source =>
    desk.objects[source]?.elim [] fun object => readEvents setup.inside object desk.ambient

def after (acts : List Act) : Desk Extra R := acts.foldl (step setup) desk

def events (desk : Desk Extra R) : List Act → List CellEvent
  | [] => []
  | act :: acts => desk.stepEvents setup act ++ (desk.step setup act).events acts

/-- The law of containers, at a desk that is reached from `start` by `events`. -/
structure Shares (start : Desk Extra R) (events : List CellEvent) : Prop where
  /-- Reading a container without a hook yields what was last written into its cell, be that
  another container or the same one. -/
  unhooked : ∀ {object : Object} {container : Container}, object.container? = some container →
    container.hook = none → start.heap.Knows events container.cell →
    setup.read object desk.ambient =
      (.ok (start.heap.heldAfter events container.cell), desk.ambient)
  /-- A hook is handed what was last written into the cell before it began. -/
  hooked : ∀ {object : Object} {container : Container} {hook : Nat},
    object.container? = some container → container.hook = some hook →
    start.heap.Knows events container.cell →
    let ran := setup.run hook (start.heap.heldAfter events container.cell) desk.ambient
    setup.read object desk.ambient = (ran.1.mapError (.inType object.type), ran.2)
  /-- Nothing is taken off other objects. -/
  plain : ∀ {object : Object}, object.container? = none →
    setup.read object desk.ambient = (.ok object, desk.ambient)
  /-- So it was whenever a container was read on the way here, also in the midst of hooks. -/
  fetched : ∀ {earlier later : List CellEvent} {container : Container} {object : Object},
    events = earlier ++ .fetched container object :: later →
    start.heap.Knows earlier container.cell → object = start.heap.heldAfter earlier container.cell
  /-- Hooks that look at the heap see the same. -/
  looked : ∀ {earlier later : List CellEvent} {heap : Heap} {cell : Nat},
    events = earlier ++ .looked heap :: later →
    start.heap.Knows earlier cell → heap.read cell = start.heap.heldAfter earlier cell
  /-- What a hook stores into the container that is being read is read next time. -/
  reread : ∀ {place hook : Nat} {object : Object} {container : Container} {value : Object},
    desk.objects[place]? = some object → object.container? = some container →
    container.hook = some hook → start.heap.Knows events container.cell →
    let handed := start.heap.heldAfter events container.cell
    lastWritten? (setup.inside hook handed desk.ambient) container.cell = some value →
    let later := desk.step setup (.read place)
    ∀ {other : Object} {binding : Container}, other.container? = some binding →
      binding.cell = container.cell → binding.hook = none →
      setup.read other later.ambient = (.ok value, later.ambient)
  /-- A new container has a cell of its own, which holds what it is made with. -/
  contained : ∀ (type : RuntimeType) (writable : Bool) {held : Nat} {object : Object},
    desk.objects[held]? = some object →
    let act : Act := .contain type held writable
    let later := desk.step setup act
    ∃ cell, ¬ start.heap.Knows events cell ∧
      start.heap.Knows (events ++ desk.stepEvents setup act) cell ∧
      later.objects = desk.objects ++ [⟨type, .container { cell, writable }⟩] ∧
      later.heap.read cell = object ∧
      ∀ other, start.heap.Knows events other → later.heap.read other = desk.heap.read other
  /-- A clone is the same object: it has the same cell, and the same hook. -/
  cloned : ∀ {source : Nat} {object : Object}, desk.objects[source]? = some object →
    desk.step setup (.clone source) = desk.put object
  /-- What gets the hook is a new clone, and the state is as before. -/
  attached : ∀ {source : Nat} (hook : Nat) {object : Object},
    desk.objects[source]? = some object →
    ∃ copy, desk.step setup (.attach source hook) = desk.put copy ∧ copy.type = object.type ∧
      copy.container? = object.container?.map ({ · with hook := some hook }) ∧
      (object.container? = none → copy = object)
  /-- Storing changes one cell and no object. -/
  stored : ∀ {target value : Nat} {bound object : Object} {container : Container},
    desk.objects[target]? = some bound → desk.objects[value]? = some object →
    bound.container? = some container →
    let later := desk.step setup (.store target value)
    later.objects = desk.objects ∧
      (start.heap.Knows events container.cell → later.heap.read container.cell = object) ∧
      ∀ cell ≠ container.cell, later.heap.read cell = desk.heap.read cell
  /-- Objects that are on the desk stay what they are. -/
  permanent : start.objects <+: desk.objects

section Law

variable {setup desk}

theorem taking_of_some {place : Nat} {object : Object} (there : desk.objects[place]? = some object)
    (next : Object → Desk Extra R) : desk.taking place next = next object := by
  rw [taking, there, Option.elim_some]

variable (setup)

theorem step_contain (type : RuntimeType) (writable : Bool) {held : Nat} {object : Object}
    (there : desk.objects[held]? = some object) :
    (desk.step setup (.contain type held writable)).objects =
        desk.objects ++ [⟨type, .container { cell := desk.heap.cells.size, writable }⟩] ∧
      (desk.step setup (.contain type held writable)).heap =
        (desk.heap.newContainer type object writable).2 := by
  rw [step, taking_of_some there]
  exact ⟨rfl, rfl⟩

/-- A store goes into one cell and leaves all objects alone. -/
theorem step_store {target value : Nat} {bound object : Object} {container : Container}
    (target_there : desk.objects[target]? = some bound)
    (value_there : desk.objects[value]? = some object)
    (isBound : bound.container? = some container) :
    (desk.step setup (.store target value)).objects = desk.objects ∧
      (desk.step setup (.store target value)).heap = desk.heap.store container.cell object := by
  rw [step, taking_of_some target_there, taking_of_some value_there, perform, State.store, isBound]
  exact ⟨rfl, rfl⟩

theorem stepEvents_read {place hook : Nat} {object : Object} {container : Container}
    (there : desk.objects[place]? = some object) (bound : object.container? = some container)
    (hooked : container.hook = some hook) :
    desk.stepEvents setup (.read place) =
      .fetched container (desk.heap.read container.cell) ::
        setup.inside hook (desk.heap.read container.cell) desk.ambient := by
  simp only [stepEvents, there, readEvents, bound, hooked, Option.elim_some]
  rfl

variable (desk)

/-- What an act does to cells is told by its events. -/
theorem told_step (act : Act) :
    desk.heap.Told (desk.stepEvents setup act) (desk.step setup act).heap := by
  cases act with
  | bring object => exact .nil _
  | contain type held writable =>
    simp only [step, taking, stepEvents]
    cases desk.objects[held]? with
    | none => exact .nil _
    | some object => exact .single (.made desk.heap type object writable)
  | clone source =>
    simp only [step, taking, stepEvents]
    cases desk.objects[source]? <;> exact .nil _
  | attach source hook =>
    simp only [step, taking, stepEvents]
    cases desk.objects[source]? <;> exact .nil _
  | store target value =>
    simp only [step, taking, stepEvents]
    cases desk.objects[target]? with
    | none => exact .nil _
    | some container =>
      cases desk.objects[value]? with
      | none => exact .nil _
      | some object => exact told_store container object desk.ambient
  | read source =>
    simp only [step, taking, stepEvents]
    cases desk.objects[source]? with
    | none => exact .nil _
    | some object =>
      have told := setup.told_read object desk.ambient
      simp only [Option.elim_some]
      rcases read : setup.read object desk.ambient with ⟨cause | held, after⟩ <;>
      · rw [read] at told
        exact told

theorem objects_taking (place : Nat) {next : Object → Desk Extra R}
    (kept : ∀ object, desk.objects <+: (next object).objects) :
    desk.objects <+: (desk.taking place next).objects := by
  unfold taking
  cases desk.objects[place]? with
  | none => exact List.prefix_rfl
  | some object => exact kept object

theorem objects_step (act : Act) : desk.objects <+: (desk.step setup act).objects := by
  cases act with
  | bring object => exact List.prefix_append _ _
  | contain type held writable =>
    exact desk.objects_taking held fun object => List.prefix_append _ _
  | clone source => exact desk.objects_taking source fun object => List.prefix_append _ _
  | attach source hook => exact desk.objects_taking source fun object => List.prefix_append _ _
  | store target value =>
    exact desk.objects_taking target fun container =>
      desk.objects_taking value fun object => List.prefix_rfl
  | read source =>
    refine desk.objects_taking source fun object => ?_
    rcases setup.read object desk.ambient with ⟨cause | held, after⟩
    · exact List.prefix_rfl
    · exact List.prefix_append _ _

theorem told_events (acts : List Act) :
    desk.heap.Told (desk.events setup acts) (desk.after setup acts).heap := by
  induction acts generalizing desk with
  | nil => exact .nil _
  | cons act acts ih => exact (desk.told_step setup act).append (ih _)

theorem objects_after (acts : List Act) : desk.objects <+: (desk.after setup acts).objects := by
  induction acts generalizing desk with
  | nil => exact List.prefix_rfl
  | cons act acts ih => exact (desk.objects_step setup act).trans (ih _)

end Law

end Desk

/-- What is done with containers, and what hooks do meanwhile, leaves them shared variables. -/
theorem shares_after (setup : Setup Extra R) (start : Desk Extra R) (acts : List Act) :
    (start.after setup acts).Shares setup start (start.events setup acts) := by
  have told := start.told_events setup acts
  have permanent := start.objects_after setup acts
  generalize start.after setup acts = desk at *
  generalize start.events setup acts = events at *
  constructor
  case unhooked =>
    intro object container bound unhooked knows
    rw [setup.read_unhooked bound unhooked, ← told.read knows]
    rfl
  case hooked =>
    intro object container hook bound hooked knows
    rw [← told.read knows]
    exact eval_read_of_hooked setup.hooks bound hooked desk.ambient
  case plain => exact fun plain => eval_read_of_plain setup.hooks plain desk.ambient
  case fetched =>
    rintro earlier later container object rfl knows
    exact told.fetched_eq knows
  case looked =>
    rintro earlier later heap cell rfl knows
    exact told.looked_eq knows
  case reread =>
    intro place hook object container value there bound hooked knows handed last later other binding
      other_bound same unhooked
    -- The cell holds what was last written while the hook ran.
    have later_told := told.append (desk.told_step setup (.read place))
    rw [Desk.stepEvents_read setup there bound hooked, told.read knows] at later_told
    have held := later_told.read (knows.append _)
    rw [Heap.heldAfter_append, lastWritten?_cons_of_some last, Option.getD_some] at held
    rw [setup.read_unhooked other_bound unhooked, same, ← held]
    rfl
  case contained =>
    intro type writable held object there contain later
    obtain ⟨objects, grown⟩ := Desk.step_contain setup type writable there
    have later_told := told.append (desk.told_step setup contain)
    rw [grown] at later_told
    refine ⟨desk.heap.cells.size, fun knows => ?fresh, ?known, objects, ?_⟩
    case fresh => exact Nat.lt_irrefl _ (told.lt_size_iff.mpr knows)
    case known =>
      rw [← later_told.lt_size_iff, Heap.size_newContainer]
      exact Nat.lt_succ_self _
    rw [grown]
    refine ⟨Heap.read_newContainer_self type object writable, fun other knows => ?_⟩
    have before := told.lt_size_iff.mpr knows
    exact Heap.read_newContainer_of_ne type object writable (Nat.ne_of_lt before)
  case cloned => exact fun there => desk.taking_of_some there _
  case attached =>
    intro source hook object there
    refine ⟨object.withHook hook, desk.taking_of_some there _, ?_⟩
    rcases object with ⟨type, _ | _ | container⟩
    · exact ⟨rfl, rfl, fun _ => rfl⟩
    · exact ⟨rfl, rfl, fun _ => rfl⟩
    · exact ⟨rfl, rfl, fun plain => absurd plain (by simp [Object.container?])⟩
  case stored =>
    intro target value bound object container target_there value_there isBound later
    obtain ⟨objects, heap⟩ := Desk.step_store setup target_there value_there isBound
    refine ⟨objects, ?_⟩
    rw [heap]
    refine ⟨fun knows => ?_, fun cell apart => ?_⟩
    · exact Heap.read_store_self (told.lt_size_iff.mpr knows) object
    · exact Heap.read_store_of_ne apart.symm object
  case permanent => exact permanent

/-- A hook that stores into the container it is read from is handed what was there before. And a
container may hold itself, which one reading does not unwrap for good. -/
theorem self_storing_hook_read :
    let type : RuntimeType := ⟨1, "Box", .attributes⟩
    let first := Object.inst type .empty
    let second := Object.typeObject type
    let box : Object := ⟨type, .container { cell := 0, writable := true }⟩
    let setup : Setup Unit String :=
      { scripts := fun _ handed => .store box second fun _ => .done (.ok handed)
        fuel := 1
        depth := 0 }
    let start : Desk Unit String := { ambient := { world := State.new () } }
    let desk := start.after setup [.bring first, .contain type 0 true, .attach 1 0]
    let later := desk.step setup (.read 2)
    let around := start.after setup [.bring first, .contain type 0 true, .store 1 1]
    (setup.read (box.withHook 0) desk.ambient).1 = .ok first ∧
      setup.read box later.ambient = (.ok second, later.ambient) ∧
      setup.read box around.ambient = (.ok box, around.ambient) := by
  intro type first second box setup start desk later around
  have law := shares_after setup start [.bring first, .contain type 0 true, .attach 1 0]
  have law_around := shares_after setup start [.bring first, .contain type 0 true, .store 1 1]
  have known {events : List CellEvent} : start.heap.Knows (.made 0 first :: events) 0 :=
    .inr ⟨first, List.mem_cons_self⟩
  have there : desk.objects[2]? = some (box.withHook 0) := rfl
  have bound : (box.withHook 0).container? = some ⟨0, true, some 0⟩ := rfl
  have plain : box.container? = some ⟨0, true, none⟩ := rfl
  refine ⟨?_, ?_, law_around.unhooked plain rfl known⟩
  · rw [law.hooked bound rfl known]
    rfl
  · have last : lastWritten? (setup.inside 0 first desk.ambient) 0 = some second := rfl
    exact law.reread there bound rfl known last plain rfl rfl

end DispatchCache.Reference
