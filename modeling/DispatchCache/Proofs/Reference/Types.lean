import DispatchCache.Proofs.Reference.TypeRequests
import DispatchCache.Reference.Model
import Mathlib.Data.List.Dedup

/-! # Which type a name stands for

Any number of registries give out types, and types are made without a registry as well, all numbered
by one count. A name stands for one type in each registry, the one that was made for the first
request for it. Numbers are given out in the order types are made, one for each, so they tell all
types apart. -/

namespace DispatchCache.Reference

variable {Home : Type}

namespace TypeWorld

variable [DecidableEq Home]

/-- The requests of a run, in order. -/
def history : List (TypeRequest Home) → TypeWorld Home → List (TypeMoment Home)
  | [], _ => []
  | request :: requests, world =>
    let moment : TypeMoment Home := ⟨request, world⟩
    moment :: history requests moment.after

/-- The types that a run makes, in order. -/
def made (requests : List (TypeRequest Home)) (world : TypeWorld Home) : List RuntimeType :=
  (history requests world).filterMap TypeMoment.made?

/-- What a run leaves. -/
def reached : List (TypeRequest Home) → TypeWorld Home → TypeWorld Home
  | [], world => world
  | request :: requests, world => reached requests (⟨request, world⟩ : TypeMoment Home).after

variable {requests : List (TypeRequest Home)} {world : TypeWorld Home}
variable {home : Home} {name : String}

theorem sound_reached (requests : List (TypeRequest Home)) (sound : world.Sound) :
    (reached requests world).Sound := by
  induction requests generalizing world with
  | nil => exact sound
  | cons request requests ih =>
    have step : (⟨request, world⟩ : TypeMoment Home).after.Sound := TypeMoment.sound_after sound
    exact ih step

theorem get?_reached (requests : List (TypeRequest Home)) (world : TypeWorld Home) (home : Home)
    (name : String) :
    ((reached requests world).registry home).get? name =
      ((world.registry home).get? name).or
        ((history requests world).findSome? (·.given? home name)) := by
  induction requests generalizing world with
  | nil => exact (Option.or_none).symm
  | cons request requests ih =>
    rw [reached, history, ih, TypeMoment.get?_after, Option.or_assoc, List.findSome?_cons]
    cases (⟨request, world⟩ : TypeMoment Home).given? home name with
    | none => rw [Option.none_or]
    | some type => rw [Option.some_or]

/-- Once a name was asked for, it stands for what was answered. -/
theorem get?_reached_of_mem {moment : TypeMoment Home} {layout : Layout}
    (member : moment ∈ history requests world) (asks : moment.request = .ask home name layout) :
    ∃ type, moment.answer = some type ∧
      ((reached requests world).registry home).get? name = some type := by
  induction requests generalizing world with
  | nil => cases member
  | cons request requests ih =>
    rcases List.mem_cons.mp member with rfl | later
    · obtain ⟨type, answer, -, known⟩ := TypeMoment.exists_answer_of_asks asks
      exact ⟨type, answer, by rw [reached, get?_reached, known, Option.some_or]⟩
    · exact ih later

theorem layout_reached (requests : List (TypeRequest Home)) (world : TypeWorld Home) (home : Home)
    (name : String) :
    (((reached requests world).registry home).get? name).map RuntimeType.layout =
      (((world.registry home).get? name).map RuntimeType.layout).or
        (requests.findSome? (·.layout? home name)) := by
  induction requests generalizing world with
  | nil => exact (Option.or_none).symm
  | cons request requests ih =>
    rw [reached, ih, TypeMoment.get?_after, List.findSome?_cons]
    cases known : (world.registry home).get? name with
    | some type => rfl
    | none =>
      rw [Option.none_or, TypeMoment.layout_given? known, Option.map_none, Option.none_or]
      cases request.layout? home name with
      | none => rw [Option.none_or]
      | some layout => rw [Option.some_or]

theorem mem_names_reached :
    name ∈ ((reached requests world).registry home).types.map RuntimeType.name ↔
      name ∈ (world.registry home).types.map RuntimeType.name ∨
        name ∈ requests.filterMap (·.name? home) := by
  induction requests generalizing world with
  | nil => simp [reached]
  | cons request requests ih =>
    rw [reached, ih, TypeMoment.mem_names_after, or_assoc]
    simp only [List.mem_filterMap, List.mem_cons, exists_eq_or_imp]

/-- A registry has as many types as it was asked for names. -/
theorem len_reached (requests : List (TypeRequest Home)) (nextId : Nat) (home : Home) :
    ((reached requests (new nextId)).registry home).len =
      (requests.filterMap (·.name? home)).dedup.length := by
  have sound := sound_reached requests (sound_new nextId : (new nextId : TypeWorld Home).Sound)
  have same : ((reached requests (new nextId)).registry home).types.map RuntimeType.name |>.Perm
      (requests.filterMap (·.name? home)).dedup := by
    rw [List.perm_ext_iff_of_nodup (sound.names home) (List.nodup_dedup _)]
    intro name
    rw [mem_names_reached, List.mem_dedup]
    simp [new]
  rw [← same.length_eq, List.length_map, Registry.len]

/-- The types of a run are numbered in the order they are made. -/
theorem map_id_made (requests : List (TypeRequest Home)) (world : TypeWorld Home) :
    (made requests world).map RuntimeType.id =
        List.range' world.nextId (made requests world).length ∧
      (reached requests world).nextId = world.nextId + (made requests world).length := by
  induction requests generalizing world with
  | nil => exact ⟨rfl, rfl⟩
  | cons request requests ih =>
    have next : (TypeMoment.after ⟨request, world⟩).nextId = world.nextId + _ :=
      TypeMoment.nextId_after
    obtain ⟨numbers, count⟩ := ih (TypeMoment.after ⟨request, world⟩)
    rw [reached, count, made, history]
    cases makes : TypeMoment.made? ⟨request, world⟩ with
    | none =>
      rw [makes] at next
      rw [List.filterMap_cons_none makes, ← made, numbers, next]
      exact ⟨rfl, rfl⟩
    | some type =>
      have id : type.id = world.nextId := TypeMoment.id_of_made makes
      rw [makes, Option.toList_some, List.length_singleton] at next
      rw [List.filterMap_cons_some makes, ← made, List.map_cons, List.length_cons, numbers, next,
        id, List.range'_succ]
      exact ⟨rfl, by omega⟩

theorem pairwise_id_made (requests : List (TypeRequest Home)) (world : TypeWorld Home) :
    (made requests world).Pairwise fun earlier later => earlier.id < later.id := by
  rw [← List.pairwise_map, (map_id_made requests world).1]
  exact List.pairwise_lt_range'

/-- Two answers of a run are the same type exactly for the same name in the same registry. -/
theorem eq_iff_of_mem (nextId : Nat) {first second : TypeMoment Home} {home home' : Home}
    {name name' : String} {layout layout' : Layout}
    (member : first ∈ history requests (new nextId))
    (member' : second ∈ history requests (new nextId))
    (asks : first.request = .ask home name layout)
    (asks' : second.request = .ask home' name' layout') :
    ∃ type type', first.answer = some type ∧ second.answer = some type' ∧
      (type = type' ↔ home = home' ∧ name = name') ∧
      (type.id = type'.id ↔ home = home' ∧ name = name') ∧
      type.name = name ∧ requests.findSome? (·.layout? home name) = some type.layout := by
  have sound := sound_reached requests (sound_new nextId : (new nextId : TypeWorld Home).Sound)
  obtain ⟨type, answer, known⟩ := get?_reached_of_mem member asks
  obtain ⟨type', answer', known'⟩ := get?_reached_of_mem member' asks'
  have named := Registry.name_of_get? known
  have named' := Registry.name_of_get? known'
  have forward : type.id = type'.id → home = home' ∧ name = name' := by
    intro same
    obtain ⟨here, rfl⟩ := sound.apart home home' type type' (Registry.mem_of_get? known)
      (Registry.mem_of_get? known') same
    exact ⟨here, named.symm.trans named'⟩
  have backward : home = home' ∧ name = name' → type = type' := by
    rintro ⟨rfl, rfl⟩
    exact Option.some.inj (known.symm.trans known')
  have first_layout := layout_reached requests (new nextId) home name
  rw [known] at first_layout
  refine ⟨type, type', answer, answer', ⟨fun same => forward (congrArg _ same), backward⟩,
    ⟨forward, fun same => congrArg _ (backward same)⟩, named, ?_⟩
  exact first_layout.symm

end TypeWorld

section Model

variable {Extra : Type}

/-- The types of a model and of registries besides its own, which is at `home`. -/
def State.types [DecidableEq Home] (state : State Extra) (others : Home → Registry) (home : Home) :
    TypeWorld Home := ⟨state.nextId, Function.update others home state.model.registry⟩

variable [DecidableEq Home] (state : State Extra) (others : Home → Registry) (home : Home)

/-- A model asks its own registry for types. -/
theorem State.types_getOrCreate (name : String) (layout : Layout) :
    (TypeRequest.ask home name layout).serve (state.types others home) =
      (some ((State.getOrCreate name layout).run state).1,
        ((State.getOrCreate name layout).run state).2.types others home) := by
  simp only [TypeRequest.serve, State.types, Function.update_self, Function.update_idem]
  rfl

/-- An integer reference asks for the type of integers. -/
theorem State.types_newIntRef (value : Int) :
    ((TypeRequest.ask home "int" .int).serve (state.types others home)).2 =
      ((State.newIntRef value).run state).2.types others home :=
  congrArg Prod.snd (state.types_getOrCreate others home "int" .int)

/-- A new model asks its registry for two types. -/
theorem serve_model (world : TypeWorld Home) (empty : world.registry home = {}) :
    let scalar := (TypeRequest.ask home "Scalar" .attributes).serve world
    let intRef := (TypeRequest.ask home "IntRef" .nativeRef).serve scalar.2
    scalar.1 = some (Model.new world.nextId).1.scalar ∧
      intRef.1 = some (Model.new world.nextId).1.intRef ∧
      intRef.2 = ⟨(Model.new world.nextId).2,
        Function.update world.registry home (Model.new world.nextId).1.registry⟩ := by
  simp only [TypeRequest.serve, empty, Function.update_self, Function.update_idem]
  exact ⟨rfl, rfl, rfl⟩

end Model

namespace TypeWorld

variable [DecidableEq Home]

/-- What a registry gave for a name when it was first asked for it in a run. -/
def given (requests : List (TypeRequest Home)) (nextId : Nat) (home : Home) (name : String) :
    Option RuntimeType :=
  (history requests (new nextId)).findSome? (TypeMoment.given? · home name)

/-- What the types of registries are after a run, whatever is asked next. -/
structure NamesIdentify (requests : List (TypeRequest Home)) (nextId : Nat) : Prop where
  /-- Two answers are the same type exactly for the same name in the same registry. -/
  answers : ∀ first ∈ history requests (new nextId), ∀ second ∈ history requests (new nextId),
    ∀ home name layout home' name' layout',
      first.request = .ask home name layout → second.request = .ask home' name' layout' →
      ∃ type type', first.answer = some type ∧ second.answer = some type' ∧
        (type = type' ↔ home = home' ∧ name = name') ∧
        (type.id = type'.id ↔ home = home' ∧ name = name') ∧
        type.name = name ∧ requests.findSome? (·.layout? home name) = some type.layout
  looks : ∀ home name, (TypeRequest.look home name).serve (reached requests (new nextId)) =
    (given requests nextId home name, reached requests (new nextId))
  unknown : ∀ home name,
    given requests nextId home name = none ↔ name ∉ requests.filterMap (·.name? home)
  len : ∀ home, ((reached requests (new nextId)).registry home).len =
    (requests.filterMap (·.name? home)).dedup.length
  again : ∀ home name layout type, given requests nextId home name = some type →
    (TypeRequest.ask home name layout).serve (reached requests (new nextId)) =
      (some type, reached requests (new nextId))
  fresh : ∀ home name layout, given requests nextId home name = none →
    let world := reached requests (new nextId)
    let next : RuntimeType := ⟨world.nextId, name, layout⟩
    (TypeRequest.ask home name layout).serve world =
      (some next, ⟨world.nextId + 1,
        Function.update world.registry home ⟨(world.registry home).types ++ [next]⟩⟩)
  numbers : (made requests (new nextId)).map RuntimeType.id =
    List.range' nextId (made requests (new nextId)).length
  ascending : (made requests (new nextId)).Pairwise fun earlier later => earlier.id < later.id
  count : (reached requests (new nextId)).nextId =
    nextId + (made requests (new nextId)).length

/-- Models ask their registries for types like anyone else. -/
structure ModelsAsk (Home : Type) [DecidableEq Home] : Prop where
  classes : ∀ (Extra : Type) (state : State Extra) (others : Home → Registry) home name,
    (TypeRequest.ask home name .attributes).serve (state.types others home) =
      (some ((State.classNamed name).run state).1,
        ((State.classNamed name).run state).2.types others home)
  refs : ∀ (Extra : Type) (state : State Extra) (others : Home → Registry) home value,
    ((TypeRequest.ask home "int" .int).serve (state.types others home)).2 =
      ((State.newIntRef value).run state).2.types others home
  types : ∀ (Extra : Type) (state : State Extra) (others : Home → Registry) home name layout,
    (TypeRequest.make name layout).serve (state.types others home) =
      (some ((State.newType name layout).run state).1,
        ((State.newType name layout).run state).2.types others home)
  /-- A new model asks for the types that it comes with. -/
  new : ∀ (world : TypeWorld Home) home, world.registry home = {} →
    let scalar := (TypeRequest.ask home "Scalar" .attributes).serve world
    let intRef := (TypeRequest.ask home "IntRef" .nativeRef).serve scalar.2
    scalar.1 = some (Model.new world.nextId).1.scalar ∧
      intRef.1 = some (Model.new world.nextId).1.intRef ∧
      intRef.2 = ⟨(Model.new world.nextId).2,
        Function.update world.registry home (Model.new world.nextId).1.registry⟩

/-- After any run, whatever is asked next. Two answers of the run are the same type exactly for the
same name in the same registry. The type has the layout of the first request for the name. A look
answers what was given for the name, and nothing before that. A registry has one type for each name
it was asked for. Asking for a name again changes nothing and takes no number. Each type that was
made, for a registry or not, took the next number. Models ask their registries in this way. -/
theorem names_identify_types (nextId : Nat) (requests : List (TypeRequest Home)) :
    NamesIdentify requests nextId ∧ ModelsAsk Home := by
  have known_eq : ∀ home name, ((reached requests (new nextId)).registry home).get? name =
      given requests nextId home name :=
    fun home name => get?_reached requests (new nextId) home name
  obtain ⟨numbers, count⟩ := map_id_made requests (new nextId)
  constructor
  · constructor
    case answers =>
      exact fun first member second member' home name layout home' name' layout' asks asks' =>
        eq_iff_of_mem nextId member member' asks asks'
    case looks =>
      intro home name
      rw [TypeRequest.serve, known_eq]
    case unknown =>
      intro home name
      rw [← known_eq, Registry.get?_eq_none_iff, mem_names_reached]
      simp [new]
    case len => exact len_reached requests nextId
    case again =>
      intro home name layout type known
      rw [← known_eq] at known
      simp only [TypeRequest.serve, Registry.getOrCreate_of_known known, Function.update_eq_self]
    case fresh =>
      intro home name layout unknown
      rw [← known_eq] at unknown
      simp only [TypeRequest.serve, Registry.getOrCreate_of_unknown unknown]
    case numbers => exact numbers
    case ascending => exact pairwise_id_made _ _
    case count => exact count
  · constructor
    case classes =>
      exact fun Extra state others home name => state.types_getOrCreate others home name .attributes
    case refs => exact fun Extra state others home => state.types_newIntRef others home
    case types => exact fun Extra state others home name layout => rfl
    case new => exact fun world home empty => serve_model home world empty

/-- A model's class may have the name of a type that the model came with, and is that type then. In
another registry the name stands for a type of its own. -/
theorem taken_name_identifies_type :
    let requests : List (TypeRequest Nat) :=
      [.ask 0 "Scalar" .attributes, .ask 0 "IntRef" .nativeRef, .make "IntRef" .int,
        .ask 0 "IntRef" .attributes, .look 1 "IntRef", .ask 1 "IntRef" .attributes]
    let trace := history requests (new 1)
    ∃ first ∈ trace, ∃ second ∈ trace, ∃ third ∈ trace,
      first.request = .ask 0 "IntRef" .nativeRef ∧ second.request = .ask 0 "IntRef" .attributes ∧
      third.request = .ask 1 "IntRef" .attributes ∧
      ∃ type other, first.answer = some type ∧ second.answer = some type ∧
        type.layout = .nativeRef ∧ third.answer = some other ∧ type.id ≠ other.id := by
  intro requests trace
  have same := (names_identify_types 1 requests).1.answers
  have first : (_ : TypeMoment Nat) ∈ trace := .tail _ (.head _)
  have second : (_ : TypeMoment Nat) ∈ trace := .tail _ (.tail _ (.tail _ (.head _)))
  have third : (_ : TypeMoment Nat) ∈ trace :=
    .tail _ (.tail _ (.tail _ (.tail _ (.tail _ (.head _)))))
  obtain ⟨type, again, answer, answered, equal, -, -, layout⟩ :=
    same _ first _ second 0 "IntRef" .nativeRef 0 "IntRef" .attributes rfl rfl
  obtain ⟨known, other, answer', answered', -, apart, -⟩ :=
    same _ second _ third 0 "IntRef" .attributes 1 "IntRef" .attributes rfl rfl
  obtain rfl := equal.mpr ⟨rfl, rfl⟩
  obtain rfl : known = type := Option.some.inj (answer'.symm.trans answered)
  refine ⟨_, first, _, second, _, third, rfl, rfl, rfl, known, other, answer, answered, ?_,
    answered', fun equal => ?_⟩
  · exact (Option.some.inj layout).symm
  · exact absurd (apart.mp equal).1 (by decide)

end TypeWorld

end DispatchCache.Reference
