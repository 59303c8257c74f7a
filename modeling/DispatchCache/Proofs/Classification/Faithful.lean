import DispatchCache.Proofs.Deeds
import DispatchCache.Declared

/-! # Keys are faithful to views

In a run that takes no slot away, every key that was given is the key of a view in the table
that the run ends with. So two arguments of the run, whenever they were classified, have keys
that agree exactly if they had the same view and that view is of a known kind. -/

namespace DispatchCache

variable {World Arg Val Ty R Err : Type}

/-- No slot is taken away. A slot is filled once, so whatever runs can only fill more of them. -/
def Ambient.Grows (before after : Ambient World Ty R) : Prop :=
  before.slots.made <+: after.slots.made

theorem Ambient.Grows.of_slots_eq {before after : Ambient World Ty R}
    (same : after.slots = before.slots) : before.Grows after := by
  unfold Grows
  exact same ▸ List.prefix_rfl

/-- The classification of one argument in a run of them, and what happens before it. -/
structure Turn (World Arg Ty R : Type) where
  before : Ambient World Ty R → Ambient World Ty R := id
  arg : Arg
  grows : ∀ ambient, Ambient.Grows ambient (before ambient) := by
    exact fun _ => List.prefix_rfl

variable [DecidableEq Ty]

/-- A run of classifications. -/
def turnDeeds (host : Host World Arg Val Ty R Err)
    (within : Arg → Ambient World Ty R → List (Deed World Arg Val Ty R Err)) :
    List (Turn World Arg Ty R) → Ambient World Ty R → List (Deed World Arg Val Ty R Err)
  | [], _ => []
  | turn :: turns, ambient =>
    .change ambient (turn.before ambient) ::
      (readDeeds host within turn.arg (turn.before ambient) ++
        turnDeeds host within turns ((classify host turn.arg).eval (turn.before ambient)).2)

theorem Reading.keyed_of_key {reading : Reading World Arg Val Ty R Err} {key : TypeKey Ty}
    (given : reading.key = .ok key) :
    ∃ view, reading.view = .ok view ∧ view.Keyed reading.done.2.slots ∧
      key = view.key reading.done.2.slots := by
  have classified := reading.host.eval_classify reading.arg reading.start
  rw [Reading.key, Reading.done, classified] at given
  rw [Reading.done, classified]
  cases seen : reading.host.view reading.arg reading.start with
  | error cause =>
    rw [seen] at given
    cases given
  | ok view =>
    rw [seen] at given
    cases given
    exact ⟨view, seen, view.keyed_demand _, rfl⟩

theorem Use.slots_eq (use : Use World Arg Val Ty R Err) : use.after.slots = use.before.slots := by
  rcases use.after_cases with kept | ⟨print, after⟩
  · rw [kept]
  · rw [after, Ambient.slots_access]

theorem Deed.grows {deed : Deed World Arg Val Ty R Err} (grows : deed.Keeps Ambient.Grows) :
    deed.before.Grows deed.after := by
  cases deed with
  | change before after => exact grows
  | read reading =>
    rw [Deed.before, Deed.after, Reading.done, Host.eval_classify]
    cases reading.host.view reading.arg reading.start with
    | error cause => exact List.prefix_rfl
    | ok view => exact view.prefix_demand _
  | use served => exact .of_slots_eq served.slots_eq

namespace Linked

variable {start stop : Ambient World Ty R} {deeds : List (Deed World Arg Val Ty R Err)}

theorem grows (linked : Linked start deeds stop)
    (grows : ∀ deed ∈ deeds, deed.Keeps Ambient.Grows) : start.Grows stop := by
  induction linked with
  | nil => exact List.prefix_rfl
  | cons deed rest ih =>
    obtain ⟨first, later⟩ := List.forall_mem_cons.mp grows
    exact (Deed.grows first).trans (ih later)

/-- A key that is given in a run is still the key of its view when the run ends. -/
theorem keyed_of_mem (linked : Linked start deeds stop)
    (grows : ∀ deed ∈ deeds, deed.Keeps Ambient.Grows) {reading : Reading World Arg Val Ty R Err}
    (member : .read reading ∈ deeds) {key : TypeKey Ty} (given : reading.key = .ok key) :
    ∃ view, reading.view = .ok view ∧ view.Keyed stop.slots ∧ key = view.key stop.slots := by
  induction linked with
  | nil => cases member
  | cons deed rest ih =>
    obtain ⟨-, later⟩ := List.forall_mem_cons.mp grows
    rcases List.mem_cons.mp member with rfl | member
    · obtain ⟨view, seen, keyed, rfl⟩ := Reading.keyed_of_key given
      have grown := rest.grows later
      exact ⟨view, seen, keyed.of_prefix grown, (View.key_of_prefix keyed grown).symm⟩
    · exact ih later member

end Linked

section Turns

variable {host : Host World Arg Val Ty R Err} (watch : Watch host)

theorem linked_turnDeeds (turns : List (Turn World Arg Ty R)) (start : Ambient World Ty R) :
    ∃ stop, Linked start (turnDeeds host watch.deeds turns start) stop := by
  induction turns generalizing start with
  | nil => exact ⟨start, .nil start⟩
  | cons turn turns ih =>
    obtain ⟨stop, rest⟩ := ih ((classify host turn.arg).eval (turn.before start)).2
    have first := watch.linked_readDeeds turn.arg (turn.before start)
    exact ⟨stop, .cons (.change start (turn.before start)) (first.append rest)⟩

theorem grows_turnDeeds (grows : watch.Keeps Ambient.Grows) (turns : List (Turn World Arg Ty R))
    (start : Ambient World Ty R) :
    ∀ deed ∈ turnDeeds host watch.deeds turns start, deed.Keeps Ambient.Grows := by
  induction turns generalizing start with
  | nil =>
    intro deed member
    cases member
  | cons turn turns ih =>
    intro deed member
    rcases List.mem_cons.mp member with rfl | member
    · exact turn.grows start
    · rcases List.mem_append.mp member with first | rest
      · exact watch.keeps_readDeeds grows _ _ deed first
      · exact ih _ deed rest

/-- In a run of classifications, those that reading an argument sets off included, any two keys
agree exactly if the arguments had equal views of a known kind when they were classified. Equal
views have the same key, whatever happened in between. -/
theorem agrees_iff_view_eq (grows : watch.Keeps Ambient.Grows)
    (turns : List (Turn World Arg Ty R)) (start : Ambient World Ty R)
    {first second : Reading World Arg Val Ty R Err}
    (member : .read first ∈ turnDeeds host watch.deeds turns start)
    (member' : .read second ∈ turnDeeds host watch.deeds turns start) {key key' : TypeKey Ty}
    (given : first.key = .ok key) (given' : second.key = .ok key') :
    ∃ view view', first.view = .ok view ∧ second.view = .ok view' ∧
      (key.agrees key' = true ↔ view = view' ∧ view ≠ .unknown) ∧ (view = view' → key = key') := by
  obtain ⟨stop, linked⟩ := linked_turnDeeds watch turns start
  have kept := grows_turnDeeds watch grows turns start
  obtain ⟨view, seen, keyed, rfl⟩ := linked.keyed_of_mem kept member given
  obtain ⟨view', seen', keyed', rfl⟩ := linked.keyed_of_mem kept member' given'
  exact ⟨view, view', seen, seen', View.agrees_key_iff keyed keyed', congrArg _⟩

end Turns

end DispatchCache

namespace DispatchCache.Declared

/-- Reading an argument of a declared host leaves the slots alone. -/
theorem keeps_fromOutside {R : Type} (types : List Bool) :
    (Watch.fromOutside (host types : Host World Arg Val Nat R Unreadable)).Keeps
      Ambient.Grows := by
  intro arg ambient deed member
  obtain rfl := List.mem_singleton.mp member
  apply Ambient.Grows.of_slots_eq
  change ((read arg).eval ambient).2.slots = ambient.slots
  unfold read
  cases arg.held <;> rfl

def container (id : Int) (type : Nat) : Arg :=
  { id := id, writable := true, own := some 0, held := some type }

/-- A type that is met again has the key it was given, whatever was met in between. -/
theorem containers_share_key :
    let host : Host World Arg Val Nat String Unreadable := host [false, false, false]
    let deeds := turnDeeds host (Watch.fromOutside host).deeds
      [{ arg := container 1 1 }, { arg := container 2 2 }, { arg := container 3 1 }]
      { world := [] }
    ∃ (first second : Reading World Arg Val Nat String Unreadable) (key key' : TypeKey Nat),
      .read first ∈ deeds ∧ .read second ∈ deeds ∧ first.arg = container 1 1 ∧
        second.arg = container 3 1 ∧ first.key = .ok key ∧ second.key = .ok key' ∧
        key.agrees key' = true ∧ key = key' := by
  intro host deeds
  let first : Reading World Arg Val Nat String Unreadable := ⟨host, container 1 1, { world := [] }⟩
  let mid := ((classify host (container 2 2)).eval first.done.2).2
  let second : Reading World Arg Val Nat String Unreadable := ⟨host, container 3 1, mid⟩
  have met : .read first ∈ deeds := .tail _ (.tail _ (.head _))
  have met' : .read second ∈ deeds :=
    .tail _ (.tail _ (.tail _ (.tail _ (.tail _ (.tail _ (.tail _ (.tail _ (.head _))))))))
  obtain ⟨view, view', seen, seen', agrees, same⟩ :=
    agrees_iff_view_eq (Watch.fromOutside host) (keeps_fromOutside _) _ _ met met' rfl rfl
  cases seen
  cases seen'
  exact ⟨first, second, _, _, met, met', rfl, rfl, rfl, rfl, agrees.mpr ⟨rfl, nofun⟩, same rfl⟩

end DispatchCache.Declared
