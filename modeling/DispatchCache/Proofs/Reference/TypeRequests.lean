import DispatchCache.Proofs.Reference.Registry
import Mathlib.Data.List.Nodup
import Mathlib.Data.List.Pairwise
import Mathlib.Logic.Function.Basic

/-! # Asking for types

Any number of registries give out types, and types are made without a registry as well, all numbered
by one count. A request finds a type, makes one, or finds none, and whatever it makes is new to all
registries. So names stay distinct in each registry, and numbers stay distinct in all. -/

namespace DispatchCache.Reference

/-- What can be asked for. `Home` tells registries apart. -/
inductive TypeRequest (Home : Type) where
  /-- The type of a name, made if need be. -/
  | ask (home : Home) (name : String) (layout : Layout)
  | look (home : Home) (name : String)
  /-- A type that no registry knows. -/
  | make (name : String) (layout : Layout)

/-- All registries, with the number of the next type. -/
structure TypeWorld (Home : Type) where
  nextId : Nat
  registry : Home → Registry

variable {Home : Type}

namespace TypeRequest

/-- The name that the request asks a registry for. -/
def name? [DecidableEq Home] (home : Home) : TypeRequest Home → Option String
  | .ask home' name _ => if home' = home then some name else none
  | .look _ _ | .make _ _ => none

/-- The layout that the request asks for, if it asks a registry for the name. -/
def layout? [DecidableEq Home] (home : Home) (name : String) : TypeRequest Home → Option Layout
  | .ask home' name' layout => if home' = home ∧ name' = name then some layout else none
  | .look _ _ | .make _ _ => none

theorem home_unique [DecidableEq Home] {request : TypeRequest Home} {home home' : Home}
    (asks : (request.name? home).isSome = true) (asks' : (request.name? home').isSome = true) :
    home = home' := by
  cases request with
  | ask home'' name layout =>
    simp only [name?] at asks asks'
    split_ifs at asks asks' with here here'
    · exact here.symm.trans here'
    · cases asks'
    · cases asks
    · cases asks
  | look home'' name => cases asks
  | make name layout => cases asks

def serve [DecidableEq Home] :
    TypeRequest Home → TypeWorld Home → Option RuntimeType × TypeWorld Home
  | .ask home name layout, world =>
    let (type, registry, nextId) := (world.registry home).getOrCreate world.nextId name layout
    (some type, ⟨nextId, Function.update world.registry home registry⟩)
  | .look home name, world => ((world.registry home).get? name, world)
  | .make name layout, world =>
    (some ⟨world.nextId, name, layout⟩, { world with nextId := world.nextId + 1 })

end TypeRequest

/-- A request that is about to be served. -/
structure TypeMoment (Home : Type) where
  request : TypeRequest Home
  world : TypeWorld Home

namespace TypeMoment

variable [DecidableEq Home] (moment : TypeMoment Home)

def answer : Option RuntimeType := (moment.request.serve moment.world).1

def after : TypeWorld Home := (moment.request.serve moment.world).2

/-- The type that a registry gives for the name, if it is asked for it. -/
def given? (home : Home) (name : String) : Option RuntimeType :=
  match moment.request with
  | .ask home' name' _ => if home' = home ∧ name' = name then moment.answer else none
  | .look _ _ | .make _ _ => none

/-- The type that is made to serve the request. -/
def made? : Option RuntimeType :=
  match moment.request with
  | .ask home name _ =>
    if (moment.world.registry home).get? name = none then moment.answer else none
  | .look _ _ => none
  | .make _ _ => moment.answer

end TypeMoment

namespace TypeWorld

/-- Before any request: all registries are empty. -/
def new (nextId : Nat) : TypeWorld Home := ⟨nextId, fun _ => {}⟩

/-- Each registry has a type for each of its names, and numbers below the next one tell the types of
all registries apart. -/
structure Sound (world : TypeWorld Home) : Prop where
  names : ∀ home, ((world.registry home).types.map RuntimeType.name).Nodup
  below : ∀ home, ∀ type ∈ (world.registry home).types, type.id < world.nextId
  apart : ∀ home home' type type', type ∈ (world.registry home).types →
    type' ∈ (world.registry home').types → type.id = type'.id → home = home' ∧ type = type'

theorem sound_new (nextId : Nat) : (new nextId : TypeWorld Home).Sound where
  names _ := List.nodup_nil
  below _ _ member := by cases member
  apart _ _ _ _ member := by cases member

end TypeWorld

namespace TypeMoment

variable [DecidableEq Home]

/-- The type that is made if one has to be made. -/
def next (moment : TypeMoment Home) (name : String) (layout : Layout) : RuntimeType :=
  ⟨moment.world.nextId, name, layout⟩

/-- The ways a request can be served. -/
inductive Serving (moment : TypeMoment Home) : Prop where
  | known {home name layout type} (asks : moment.request = .ask home name layout)
      (known : (moment.world.registry home).get? name = some type)
      (answer : moment.answer = some type) (unmade : moment.made? = none)
      (after : moment.after = moment.world)
  | unknown {home name layout} (asks : moment.request = .ask home name layout)
      (unknown : (moment.world.registry home).get? name = none)
      (answer : moment.answer = some (moment.next name layout))
      (made : moment.made? = some (moment.next name layout))
      (after : moment.after = ⟨moment.world.nextId + 1,
        Function.update moment.world.registry home
          ⟨(moment.world.registry home).types ++ [moment.next name layout]⟩⟩)
  | look {home name} (looks : moment.request = .look home name)
      (answer : moment.answer = (moment.world.registry home).get? name)
      (unmade : moment.made? = none) (after : moment.after = moment.world)
  | make {name layout} (makes : moment.request = .make name layout)
      (answer : moment.answer = some (moment.next name layout))
      (made : moment.made? = some (moment.next name layout))
      (after : moment.after = { moment.world with nextId := moment.world.nextId + 1 })

theorem serving (moment : TypeMoment Home) : moment.Serving := by
  rcases moment with ⟨request, world⟩
  cases request with
  | ask home name layout =>
    cases known : (world.registry home).get? name with
    | some type =>
      refine .known rfl known ?_ ?_ ?_
      · simp only [answer, TypeRequest.serve, Registry.getOrCreate_of_known known]
      · simp [made?, known]
      · simp only [after, TypeRequest.serve, Registry.getOrCreate_of_known known,
          Function.update_eq_self]
    | none =>
      have answered : answer ⟨.ask home name layout, world⟩ =
          some ⟨world.nextId, name, layout⟩ := by
        simp only [answer, TypeRequest.serve, Registry.getOrCreate_of_unknown known]
      refine .unknown rfl known answered ?_ ?_
      · simp only [made?, known, if_true, answered, next]
      · simp only [after, TypeRequest.serve, Registry.getOrCreate_of_unknown known, next]
  | look home name => exact .look rfl rfl rfl rfl
  | make name layout => exact .make rfl rfl rfl rfl

variable {moment : TypeMoment Home} {home : Home} {name : String} {type : RuntimeType}

/-- Making a type is all that takes a number. -/
theorem nextId_after : moment.after.nextId = moment.world.nextId + moment.made?.toList.length := by
  cases moment.serving with
  | known asks known answer unmade after => rw [after, unmade]; rfl
  | unknown asks unknown answer made after => rw [after, made]; rfl
  | look looks answer unmade after => rw [after, unmade]; rfl
  | make makes answer made after => rw [after, made]; rfl

theorem id_of_made (made : moment.made? = some type) : type.id = moment.world.nextId := by
  cases moment.serving with
  | known asks known answer unmade after => simp [unmade] at made
  | unknown asks unknown answer made' after =>
    obtain rfl := Option.some.inj (made'.symm.trans made)
    rfl
  | look looks answer unmade after => simp [unmade] at made
  | make makes answer made' after =>
    obtain rfl := Option.some.inj (made'.symm.trans made)
    rfl

/-- A registry keeps its types. What it gains is the type that is made for a name that it is asked
for. -/
theorem types_after (home : Home) : (moment.after.registry home).types =
    (moment.world.registry home).types ++
      if (moment.request.name? home).isSome then moment.made?.toList else [] := by
  cases moment.serving with
  | known asks known answer unmade after => simp [after, unmade]
  | @unknown home' name layout asks unknown answer made after =>
    by_cases here : home' = home
    · subst here
      simp [after, made, asks, TypeRequest.name?]
    · simp [after, asks, TypeRequest.name?, here, Function.update_of_ne (Ne.symm here)]
  | look looks answer unmade after => simp [after, unmade]
  | make makes answer made after => simp [after, makes, TypeRequest.name?]

theorem mem_types_after :
    type ∈ (moment.after.registry home).types ↔ type ∈ (moment.world.registry home).types ∨
      (moment.request.name? home).isSome = true ∧ moment.made? = some type := by
  rw [types_after, List.mem_append]
  split_ifs with asks <;> simp [asks]

/-- A name stands for what it stood for, or else for what is given for it. -/
theorem get?_after (home : Home) (name : String) :
    (moment.after.registry home).get? name =
      ((moment.world.registry home).get? name).or (moment.given? home name) := by
  cases moment.serving with
  | @known home' name' layout type asks known answer unmade after =>
    by_cases same : home' = home ∧ name' = name
    · obtain ⟨rfl, rfl⟩ := same
      simp [after, known]
    · simp [after, given?, asks, same]
  | @unknown home' name' layout asks unknown answer made after =>
    by_cases here : home' = home
    · subst here
      rw [Registry.get?] at unknown
      by_cases same : name' = name
      · subst same
        simp [after, given?, asks, answer, Registry.get?, unknown, next]
      · simp [after, given?, asks, same, Registry.get?, next]
    · simp [after, given?, asks, here, Function.update_of_ne (Ne.symm here)]
  | look looks answer unmade after => simp [after, given?, looks]
  | make makes answer made after => simp [after, given?, makes]

/-- What is given for a name is what it stands for afterwards. -/
theorem exists_answer_of_asks {layout : Layout} (asks : moment.request = .ask home name layout) :
    ∃ type, moment.answer = some type ∧ moment.given? home name = some type ∧
      (moment.after.registry home).get? name = some type := by
  have given : moment.given? home name = moment.answer := by simp [given?, asks]
  cases moment.serving with
  | @known _ _ _ type asks' known answer unmade after =>
    cases asks.symm.trans asks'
    exact ⟨type, answer, given.trans answer, by rw [after, known]⟩
  | unknown asks' unknown answer made after =>
    cases asks.symm.trans asks'
    exact ⟨_, answer, given.trans answer,
      by rw [get?_after, unknown, given, answer, Option.none_or]⟩
  | look looks answer unmade after => cases asks.symm.trans looks
  | make makes answer made after => cases asks.symm.trans makes

theorem given?_eq_none_iff :
    moment.given? home name = none ↔ moment.request.name? home ≠ some name := by
  cases asks : moment.request with
  | ask home' name' layout =>
    obtain ⟨type, answer, -⟩ := exists_answer_of_asks asks
    by_cases here : home' = home <;> by_cases same : name' = name <;>
      simp [given?, TypeRequest.name?, asks, here, same, answer]
  | look home' name' => simp [given?, TypeRequest.name?, asks]
  | make name' layout => simp [given?, TypeRequest.name?, asks]

/-- The names of a registry are those that it was asked for. -/
theorem mem_names_after :
    name ∈ (moment.after.registry home).types.map RuntimeType.name ↔
      name ∈ (moment.world.registry home).types.map RuntimeType.name ∨
        moment.request.name? home = some name := by
  have unknown : (moment.after.registry home).get? name = none ↔
      (moment.world.registry home).get? name = none ∧ moment.given? home name = none := by
    rw [get?_after, Option.or_eq_none_iff]
  rw [Registry.get?_eq_none_iff, Registry.get?_eq_none_iff, given?_eq_none_iff] at unknown
  rw [← not_iff_not, unknown, not_or]

/-- Where the name stood for nothing, what is given has the layout that is asked for. -/
theorem layout_given? (unknown : (moment.world.registry home).get? name = none) :
    (moment.given? home name).map RuntimeType.layout = moment.request.layout? home name := by
  cases moment.serving with
  | @known home' name' layout type asks known answer unmade after =>
    have apart : ¬ (home' = home ∧ name' = name) := by
      rintro ⟨rfl, rfl⟩
      simp [known] at unknown
    simp [given?, TypeRequest.layout?, asks, apart]
  | @unknown home' name' layout asks unknown' answer made after =>
    by_cases same : home' = home ∧ name' = name
    · simp [given?, TypeRequest.layout?, asks, same, answer, next]
    · simp [given?, TypeRequest.layout?, asks, same]
  | look looks answer unmade after => simp [given?, TypeRequest.layout?, looks]
  | make makes answer made after => simp [given?, TypeRequest.layout?, makes]

theorem nodup_names_after (sound : moment.world.Sound) (home : Home) :
    ((moment.after.registry home).types.map RuntimeType.name).Nodup := by
  rw [types_after, List.map_append]
  refine List.nodup_append.mpr ⟨sound.names home, ?_, ?_⟩
  · split_ifs
    · cases moment.made? <;> simp
    · exact List.nodup_nil
  · intro old known new member same
    subst same
    cases moment.serving with
    | known asks known' answer unmade after => simp [unmade] at member
    | @unknown home' name' layout asks unknown answer made after =>
      by_cases here : home' = home
      · subst here
        obtain rfl : old = name' := by simpa [asks, TypeRequest.name?, made, next] using member
        exact Registry.get?_eq_none_iff.mp unknown known
      · simp [asks, TypeRequest.name?, here] at member
    | look looks answer unmade after => simp [unmade] at member
    | make makes answer made after => simp [makes, TypeRequest.name?] at member

/-- One request keeps names and numbers distinct. -/
theorem sound_after (sound : moment.world.Sound) : moment.after.Sound := by
  have old_below : ∀ {home type}, type ∈ (moment.world.registry home).types →
      type.id < moment.world.nextId := fun old => sound.below _ _ old
  constructor
  case names => exact nodup_names_after sound
  case below =>
    intro home type member
    rw [nextId_after]
    rcases mem_types_after.mp member with old | ⟨-, made⟩
    · exact Nat.lt_add_right _ (old_below old)
    · rw [id_of_made made, made]
      exact Nat.lt_succ_self _
  case apart =>
    intro home home' type type' member member' same
    rcases mem_types_after.mp member with old | ⟨asks, made⟩
    · rcases mem_types_after.mp member' with old' | ⟨-, made'⟩
      · exact sound.apart home home' type type' old old' same
      · exact absurd (same.trans (id_of_made made')) (Nat.ne_of_lt (old_below old))
    · rcases mem_types_after.mp member' with old' | ⟨asks', made'⟩
      · exact absurd (same.symm.trans (id_of_made made)) (Nat.ne_of_lt (old_below old'))
      · -- One request goes to one registry.
        exact ⟨TypeRequest.home_unique asks asks', Option.some.inj (made.symm.trans made')⟩

end TypeMoment

end DispatchCache.Reference
