import DispatchCache.Proofs.SharedCache.Serving
import DispatchCache.UserCode

/-! # Code that stays clear of a shared cache

States are alike for a place if they differ at most in the shared cache there and in the log.
A run that stays clear of the place goes the same way from alike states, to alike states, and
leaves the shared cache there as it is. Runs are built from parts that stay clear, so user
code does that only makes calls on other shared caches. -/

namespace DispatchCache

variable {World Arg Val Ty R Err α β : Type}

namespace Ambient

structure Alike (place : Nat) (a b : Ambient World Ty R) : Prop where
  world : a.world = b.world
  slots : a.slots = b.slots
  shared : ∀ other, other ≠ place → a.shared[other]? = b.shared[other]?

namespace Alike

variable {place : Nat} {a b c : Ambient World Ty R}

theorem refl (place : Nat) (a : Ambient World Ty R) : a.Alike place a :=
  ⟨rfl, rfl, fun _ _ => rfl⟩

theorem symm (alike : a.Alike place b) : b.Alike place a :=
  ⟨alike.world.symm, alike.slots.symm, fun other apart => (alike.shared other apart).symm⟩

theorem trans (first : a.Alike place b) (second : b.Alike place c) : a.Alike place c :=
  ⟨first.world.trans second.world, first.slots.trans second.slots,
    fun other apart => (first.shared other apart).trans (second.shared other apart)⟩

theorem note (place : Nat) (a : Ambient World Ty R) (event : Event) :
    a.Alike place (a.note event) := ⟨rfl, rfl, fun _ _ => rfl⟩

theorem sharedAt (alike : a.Alike place b) {other : Nat} (apart : other ≠ place) :
    a.sharedAt other = b.sharedAt other := by
  rw [Ambient.sharedAt, Ambient.sharedAt, alike.shared other apart]

end Alike

end Ambient

/-- A run that neither looks at the shared cache at a place nor touches it. -/
structure Run.Apart (place : Nat) (run : Run World Ty R Err α) : Prop where
  alike : ∀ {a b : Ambient World Ty R}, a.Alike place b →
    (run.eval a).1 = (run.eval b).1 ∧ (run.eval a).2.Alike place (run.eval b).2
  kept : ∀ a : Ambient World Ty R, (run.eval a).2.shared[place]? = a.shared[place]?

/-- Reading an argument stays clear of the shared cache at a place. -/
def Host.Apart (host : Host World Arg Val Ty R Err) (place : Nat) : Prop :=
  ∀ arg, Run.Apart place (host.decontainerize arg)

namespace Run.Apart

variable {place : Nat}

theorem sharedAt_eq {run : Run World Ty R Err α} (apart : Run.Apart place run)
    (ambient : Ambient World Ty R) :
    (run.eval ambient).2.sharedAt place = ambient.sharedAt place := by
  rw [Ambient.sharedAt, Ambient.sharedAt, apart.kept]

theorem pure (a : α) : Run.Apart place (Pure.pure a : Run World Ty R Err α) where
  alike alike := ⟨rfl, alike⟩
  kept _ := rfl

theorem throw (cause : Err) : Run.Apart place (throw cause : Run World Ty R Err α) where
  alike alike := ⟨rfl, alike⟩
  kept _ := rfl

theorem bind {first : Run World Ty R Err α} {next : α → Run World Ty R Err β}
    (apart : Run.Apart place first) (rest : ∀ a, Run.Apart place (next a)) :
    Run.Apart place (first >>= next) := by
  constructor
  case alike =>
    intro a b alike
    obtain ⟨answers, states⟩ := apart.alike alike
    rcases runA : first.eval a with ⟨cause | x, a'⟩
    · rcases runB : first.eval b with ⟨answer, b'⟩
      rw [runA, runB] at answers states
      obtain rfl : .error cause = answer := answers
      rw [eval_bind_error next runA, eval_bind_error next runB]
      exact ⟨rfl, states⟩
    · rcases runB : first.eval b with ⟨answer, b'⟩
      rw [runA, runB] at answers states
      obtain rfl : .ok x = answer := answers
      rw [eval_bind_ok next runA, eval_bind_ok next runB]
      exact (rest x).alike states
  case kept =>
    intro a
    have kept := apart.kept a
    rcases runA : first.eval a with ⟨cause | x, a'⟩
    · rw [eval_bind_error next runA]
      rwa [runA] at kept
    · rw [eval_bind_ok next runA, (rest x).kept a']
      rwa [runA] at kept

theorem map {run : Run World Ty R Err α} (f : α → β) (apart : Run.Apart place run) :
    Run.Apart place (f <$> run) := by
  rw [← bind_pure_comp]
  exact apart.bind fun a => .pure (f a)

/-- A failure that is an answer stays clear of what the failing run stays clear of. -/
theorem lift {run : Run World Ty R Err α} (apart : Run.Apart place run) :
    Run.Apart place (ExceptT.lift run.run : Run World Ty R Err (Except Err α)) where
  alike alike := ⟨congrArg Except.ok (apart.alike alike).1, (apart.alike alike).2⟩
  kept := apart.kept

theorem world : Run.Apart place (Run.world : Run World Ty R Err World) where
  alike alike := ⟨congrArg Except.ok alike.world, alike⟩
  kept _ := rfl

theorem report (event : Event) : Run.Apart place (Run.report event : Run World Ty R Err PUnit) where
  alike alike := ⟨rfl, alike.world, alike.slots, alike.shared⟩
  kept _ := rfl

theorem changeWorld (change : World → World) :
    Run.Apart place
      (modify fun ambient => { ambient with world := change ambient.world } :
        Run World Ty R Err PUnit) where
  alike alike := ⟨rfl, congrArg change alike.world, alike.slots, alike.shared⟩
  kept _ := rfl

theorem setWorld (world : World) :
    Run.Apart place (modify fun ambient => { ambient with world } : Run World Ty R Err PUnit) :=
  changeWorld fun _ => world

theorem slotKey [DecidableEq Ty] (ty : Ty) (kind : SlotKind) :
    Run.Apart place (Run.slotKey ty kind : Run World Ty R Err ContainerKey) := by
  constructor
  case alike =>
    intro a b alike
    rw [eval_slotKey, eval_slotKey, Ambient.slotKey, Ambient.slotKey, alike.slots]
    split_ifs
    · exact ⟨rfl, alike⟩
    · exact ⟨rfl, alike.world, rfl, alike.shared⟩
  case kept =>
    intro a
    rw [eval_slotKey, Ambient.slotKey]
    split_ifs <;> rfl

theorem sharedAt {other : Nat} (apart : other ≠ place) :
    Run.Apart place (Run.sharedAt other : Run World Ty R Err _) where
  alike alike := ⟨congrArg Except.ok (alike.sharedAt apart), alike⟩
  kept _ := rfl

theorem setSharedAt {other : Nat} (apart : other ≠ place) (shared : SharedCache Ty R) :
    Run.Apart place (Run.setSharedAt other shared : Run World Ty R Err PUnit) := by
  constructor
  case alike =>
    intro a b alike
    refine ⟨rfl, alike.world, alike.slots, fun third clear => ?_⟩
    change (a.shared.set other shared)[third]? = (b.shared.set other shared)[third]?
    rw [List.getElem?_set', List.getElem?_set', alike.shared third clear]
  case kept =>
    intro a
    exact List.getElem?_set_ne apart

end Run.Apart

variable [DecidableEq Ty] {host : Host World Arg Val Ty R Err} {place : Nat}

namespace Host.Apart

theorem heldKey (queries : Queries World Arg Val Ty) (world : World) (arg : Arg) (own : Ty)
    (value : Val) :
    Run.Apart place (queries.heldKey world arg own value : Run World Ty R Err (TypeKey Ty)) := by
  unfold Queries.heldKey
  dsimp only
  split_ifs
  · exact .pure _
  · exact .pure _
  · exact .pure _
  · exact (Run.Apart.slotKey _ _).map _
  · exact (Run.Apart.slotKey _ _).map _

theorem classify (apart : host.Apart place) (arg : Arg) :
    Run.Apart place (classify host arg) := by
  unfold DispatchCache.classify
  apply Run.Apart.world.bind
  intro before
  split_ifs
  · exact .pure _
  · cases host.ownType before arg with
    | none => exact .pure _
    | some own =>
      apply (apart arg).bind
      intro value
      apply Run.Apart.world.bind
      intro after
      exact heldKey _ _ _ _ _

theorem extractKeys (apart : host.Apart place) (args : List Arg) :
    Run.Apart place (extractKeys host args) := by
  induction args with
  | nil => exact .pure _
  | cons arg args ih =>
    apply (apart.classify arg).bind
    intro key
    apply ih.bind
    intro keys
    exact .pure _

theorem extract (apart : host.Apart place) (args : List Arg) :
    Run.Apart place (extract host args) := by
  apply (apart.extractKeys args).bind
  intro keys
  exact .pure _

end Host.Apart

namespace SharedCache

variable {other : Nat}

theorem apart_find (apart : host.Apart place) (elsewhere : other ≠ place) (call : Capture Arg) :
    Run.Apart place (find host other call) := by
  unfold find
  cases call.shape maxArity with
  | named => exact .pure _
  | tooWide arity => exact .pure _
  | zeroArity =>
    apply (Run.Apart.sharedAt elsewhere).bind
    intro shared
    exact .pure _
  | positional arity =>
    apply (apart.extract call.positional).bind
    intro print
    apply (Run.Apart.sharedAt elsewhere).bind
    intro shared
    exact .pure _

theorem apart_commit (elsewhere : other ≠ place) (print : Fingerprint Ty) (result : R) :
    Run.Apart place (commit other print result : Run World Ty R Err InsertOutcome) := by
  apply (Run.Apart.sharedAt elsewhere).bind
  intro shared
  generalize shared.insertFingerprint print result = filed
  apply (Run.Apart.setSharedAt elsewhere _).bind
  intro _
  dsimp only
  split_ifs
  · apply (Run.Apart.report _).bind
    intro _
    exact .pure _
  · exact .pure _

theorem apart_add (apart : host.Apart place) (elsewhere : other ≠ place) (call : Capture Arg)
    (result : R) : Run.Apart place (add host other call result) := by
  unfold add
  cases call.shape maxArity with
  | named => exact .pure _
  | tooWide arity => exact .pure _
  | zeroArity => exact apart_commit elsewhere _ _
  | positional arity =>
    apply (Run.Apart.sharedAt elsewhere).bind
    intro shared
    split_ifs
    · exact .pure _
    · apply (apart.extract call.positional).bind
      intro print
      exact apart_commit elsewhere _ _

end SharedCache

/-- User code that makes no call on the shared cache at a place, whatever it sees. -/
def UserCode.Avoids {Out : Type} (place : Nat) : UserCode World Arg R Err Out → Prop
  | .done _ => True
  | .look next => ∀ world, (next world).Avoids place
  | .change _ next => next.Avoids place
  | .find other _ next => other ≠ place ∧ ∀ answer, (next answer).Avoids place
  | .add other _ _ next => other ≠ place ∧ ∀ answer, (next answer).Avoids place

theorem UserCode.apart_run {Out : Type} (apart : host.Apart place)
    (code : UserCode World Arg R Err Out) (avoids : code.Avoids place) :
    Run.Apart place (code.run host) := by
  induction code with
  | done answer =>
    cases answer with
    | error cause => exact .throw cause
    | ok value => exact .pure value
  | look next ih =>
    apply Run.Apart.world.bind
    intro world
    exact ih world (avoids world)
  | change world next ih =>
    apply (Run.Apart.setWorld world).bind
    intro _
    exact ih avoids
  | find other call next ih =>
    apply (SharedCache.apart_find apart avoids.1 call).lift.bind
    intro answer
    exact ih answer (avoids.2 answer)
  | add other call result next ih =>
    apply (SharedCache.apart_add apart avoids.1 call result).lift.bind
    intro answer
    exact ih answer (avoids.2 answer)

/-- A runtime stays clear of a shared cache if the code of no argument uses it, however deep
the calls that the code makes on others are nested. -/
theorem Runtime.apart_host (runtime : Runtime World Arg Val Ty R Err) (tooDeep : Err)
    (avoids : ∀ arg, (runtime.code arg).Avoids place) (depth : Nat) :
    (runtime.host tooDeep depth).Apart place := by
  induction depth with
  | zero =>
    intro arg
    exact .throw tooDeep
  | succ depth ih =>
    intro arg
    exact (runtime.code arg).apart_run ih (avoids arg)

end DispatchCache
