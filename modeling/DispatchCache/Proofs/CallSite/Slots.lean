import DispatchCache.Proofs.CallSite.Course
import DispatchCache.Proofs.Classification.Demand

/-! # The slots that a run makes

A run uses the library again and again, and its arguments are classified where an extraction, a
lookup, an insert or a dispatch comes to read them. All these classifications together say which
slots there are when the run ends. Calls that are decided without a look at their arguments add
nothing to it. -/

namespace DispatchCache

variable {World Arg Val Ty R Err Fail : Type} [DecidableEq Ty]

/-- A resolver with an account of all that it does. It makes no slot but by having arguments
classified. -/
structure WatchedResolver (World Arg Val Ty R Err Fail : Type) [DecidableEq Ty] where
  resolve : Resolver World Arg Ty R Fail
  deeds : Capture Arg → Ambient World Ty R → List (Deed World Arg Val Ty R Err)
  linked : ∀ call ambient, Linked ambient (deeds call ambient) ((resolve call).eval ambient).2
  same : ∀ call ambient, ∀ deed ∈ deeds call ambient, deed.Keeps Ambient.SameSlots

/-- User code that resolves calls, and may use shared caches for that. -/
def WatchedResolver.ofCode {host : Host World Arg Val Ty R Err} (watch : Watch host)
    (own : watch.Keeps Ambient.SameSlots) (code : Capture Arg → UserCode World Arg R Err R) :
    WatchedResolver World Arg Val Ty R Err Err where
  resolve call := (code call).run host
  deeds call := (code call).deeds host watch.deeds
  linked call := (code call).linked_deeds watch
  same call := (code call).keeps_deeds own fun _ _ => rfl

/-- One use of the library, or what happens in between. Handles, caches and sites are those that
the run has at hand by then. -/
inductive LibraryStep (World Arg Val Ty R Err Fail : Type) [DecidableEq Ty] where
  | outside (change : Ambient World Ty R → Ambient World Ty R)
      (same : ∀ ambient, Ambient.SameSlots ambient (change ambient))
  | extract (args : List Arg)
  | find (handle : Option (Cache Ty R)) (call : Capture Arg)
  | insert (cache : Cache Ty R) (call : Capture Arg) (result : R)
  | dispatch (site : CallSite Ty R) (resolver : WatchedResolver World Arg Val Ty R Err Fail)
      (call : Capture Arg)

section Steps

variable (host : Host World Arg Val Ty R Err)

def LibraryStep.after (start : Ambient World Ty R) :
    LibraryStep World Arg Val Ty R Err Fail → Ambient World Ty R
  | .outside change _ => change start
  | .extract args => ((DispatchCache.extract host args).eval start).2
  | .find handle call => ((DispatchCache.find host handle call).eval start).2
  | .insert cache call result => ((cache.insert host call result).eval start).2
  | .dispatch site resolver call => ((site.dispatch host resolver.resolve call).run start).2

/-- The state that a run leaves. -/
def afterRun (steps : List (LibraryStep World Arg Val Ty R Err Fail)) (start : Ambient World Ty R) :
    Ambient World Ty R :=
  steps.foldl (LibraryStep.after host) start

theorem afterRun_append (earlier later : List (LibraryStep World Arg Val Ty R Err Fail))
    (start : Ambient World Ty R) :
    afterRun host (earlier ++ later) start = afterRun host later (afterRun host earlier start) :=
  List.foldl_append

end Steps

namespace Watch

variable {host : Host World Arg Val Ty R Err} (watch : Watch host)

/-- What is classified to tell what a call is. Its shape may tell already. -/
def toDecide (call : Capture Arg) (start : Ambient World Ty R) :
    List (Reading World Arg Val Ty R Err) :=
  match call.shape maxArity with
  | .positional _ => watch.classified call.positional start
  | .named | .tooWide _ | .zeroArity => []

def toFind (handle : Option (Cache Ty R)) (call : Capture Arg) (start : Ambient World Ty R) :
    List (Reading World Arg Val Ty R Err) :=
  if handle.isSome then watch.toDecide call start else []

def toInsert (cache : Cache Ty R) (call : Capture Arg) (start : Ambient World Ty R) :
    List (Reading World Arg Val Ty R Err) :=
  if cache.isFull call.arity then [] else watch.toDecide call start

/-- What is classified by a dispatch: for the lookup, by the resolver if it is asked, and for the
insert if there is a result. -/
def toDispatch (site : CallSite Ty R) (resolver : WatchedResolver World Arg Val Ty R Err Fail)
    (call : Capture Arg) (start : Ambient World Ty R) : List (Reading World Arg Val Ty R Err) :=
  watch.toFind site.cache call start ++
    match site.looking host call start with
    | (.ok none, seen) =>
      (resolver.deeds call (seen.note (.resolving call.arity))).filterMap Deed.reading? ++
        match CallSite.resolving resolver.resolve call seen with
        | (.ok _, mid) => watch.toInsert site.opened call mid
        | (.error _, _) => []
    | (_, _) => []

/-- The classifications of one use of the library. -/
def readings (start : Ambient World Ty R) :
    LibraryStep World Arg Val Ty R Err Fail → List (Reading World Arg Val Ty R Err)
  | .outside _ _ => []
  | .extract args => watch.classified args start
  | .find handle call => watch.toFind handle call start
  | .insert cache call _ => watch.toInsert cache call start
  | .dispatch site resolver call => watch.toDispatch site resolver call start

/-- The classifications of a run, in order. -/
def runReadings : List (LibraryStep World Arg Val Ty R Err Fail) → Ambient World Ty R →
    List (Reading World Arg Val Ty R Err)
  | [], _ => []
  | step :: steps, start => watch.readings start step ++ runReadings steps (step.after host start)

section Fills

variable {call : Capture Arg} {start seen mid after : Ambient World Ty R} {arity : Nat}

theorem toDecide_of_uncacheable (shape : (call.shape maxArity).isCacheable = false) :
    watch.toDecide call start = [] := by
  unfold toDecide
  cases form : call.shape maxArity with
  | positional arity => simp [form, CallShape.isCacheable] at shape
  | _ => rfl

theorem toDecide_of_zeroArity (shape : call.shape maxArity = .zeroArity) :
    watch.toDecide call start = [] := by
  rw [toDecide, shape]

theorem toDecide_of_positional (shape : call.shape maxArity = .positional arity) :
    watch.toDecide call start = watch.classified call.positional start := by
  rw [toDecide, shape]

variable {watch} (own : watch.Keeps Ambient.SameSlots)

include own

theorem fills_of_read {answer : Except Err (Fingerprint Ty)}
    (read : (extract host call.positional).eval start = (answer, after)) :
    Fills start (watch.classified call.positional start) after := by
  have fills := watch.fills_extract own call.positional start
  rwa [read] at fills

theorem fills_find (handle : Option (Cache Ty R)) (call : Capture Arg)
    (start : Ambient World Ty R) :
    Fills start (watch.toFind handle call start) ((find host handle call).eval start).2 := by
  cases handle with
  | none => exact .of_slots_eq rfl
  | some cache =>
    have way := cache.callLookup host call start
    rw [toFind, Option.isSome_some, if_pos rfl]
    change Fills start _ ((cache.lookup host call).eval start).2
    generalize (cache.lookup host call).eval start = done at way ⊢
    cases way with
    | uncacheable shape =>
      rw [toDecide_of_uncacheable watch shape]
      exact .of_slots_eq rfl
    | zeroArity shape slot =>
      rw [toDecide_of_zeroArity watch shape]
      exact .of_slots_eq rfl
    | unread shape read =>
      rw [toDecide_of_positional watch shape]
      exact fills_of_read own read
    | read shape read got =>
      rw [toDecide_of_positional watch shape]
      exact (fills_of_read own read).then_same rfl

theorem fills_insert (cache : Cache Ty R) (call : Capture Arg) (result : R)
    (start : Ambient World Ty R) :
    Fills start (watch.toInsert cache call start)
      ((cache.insert host call result).eval start).2 := by
  have way := cache.callInsert host call result start
  rw [toInsert]
  generalize (cache.insert host call result).eval start = done at way ⊢
  cases way with
  | uncacheable shape =>
    rw [toDecide_of_uncacheable watch shape, ite_self]
    exact .of_slots_eq rfl
  | zeroArity shape =>
    rw [toDecide_of_zeroArity watch shape, ite_self]
    exact .of_slots_eq rfl
  | full shape full =>
    obtain ⟨rfl, -, -⟩ := Capture.arity_of_positional shape
    rw [if_pos full]
    exact .of_slots_eq rfl
  | unread shape room read =>
    obtain ⟨rfl, -, -⟩ := Capture.arity_of_positional shape
    rw [room, if_neg Bool.false_ne_true, toDecide_of_positional watch shape]
    exact fills_of_read own read
  | read shape room read inserted =>
    obtain ⟨rfl, -, -⟩ := Capture.arity_of_positional shape
    rw [room, if_neg Bool.false_ne_true, toDecide_of_positional watch shape]
    exact fills_of_read own read

section Dispatch

variable {site : CallSite Ty R} {resolver : WatchedResolver World Arg Val Ty R Err Fail}

theorem fills_looking {answer : Except Err (Option R)}
    (looked : site.looking host call start = (answer, seen)) :
    Fills start (watch.toFind site.cache call start) seen := by
  have found := fills_find own site.cache call start
  rwa [← CallSite.looking, looked] at found

omit own in
theorem fills_resolving {answer : Except Fail R}
    (resolved : CallSite.resolving resolver.resolve call seen = (answer, mid)) :
    Fills seen
      ((resolver.deeds call (seen.note (.resolving call.arity))).filterMap Deed.reading?) mid := by
  have asked := resolver.linked call (seen.note (.resolving call.arity))
  rw [← CallSite.resolving, resolved] at asked
  have noted : Fills seen ([] : List (Reading World Arg Val Ty R Err))
      (seen.note (.resolving call.arity)) := .of_slots_eq rfl
  exact noted.trans (asked.fills (resolver.same call _))

theorem fills_filing {result : R}
    {answer : Except (Halted (Cache Ty R) Err) (InsertOutcome × Cache Ty R)}
    (filed : site.filing host call result mid = (answer, after)) :
    Fills mid (watch.toInsert site.opened call mid) after := by
  have inserted := fills_insert own site.opened call result mid
  rwa [← CallSite.filing, filed] at inserted

theorem fills_dispatch (site : CallSite Ty R)
    (resolver : WatchedResolver World Arg Val Ty R Err Fail) (call : Capture Arg)
    (start : Ambient World Ty R) :
    Fills start (watch.toDispatch site resolver call start)
      ((site.dispatch host resolver.resolve call).run start).2 := by
  have follows := CallSite.course site host resolver.resolve call start
  rw [toDispatch]
  generalize (site.dispatch host resolver.resolve call).run start = done at follows ⊢
  cases follows with
  | unread looked =>
    rw [looked, List.append_nil]
    exact fills_looking own looked
  | hit looked =>
    rw [looked, List.append_nil]
    exact fills_looking own looked
  | unresolved looked resolved =>
    simp only [looked, resolved, List.append_nil]
    exact (fills_looking own looked).trans (fills_resolving resolved)
  | unfiled looked resolved filed =>
    simp only [looked, resolved]
    exact (fills_looking own looked).trans
      ((fills_resolving resolved).trans (fills_filing own filed))
  | filed looked resolved filed =>
    simp only [looked, resolved]
    exact (fills_looking own looked).trans
      ((fills_resolving resolved).trans (fills_filing own filed))

end Dispatch

theorem fills_step (step : LibraryStep World Arg Val Ty R Err Fail) (start : Ambient World Ty R) :
    Fills start (watch.readings start step) (step.after host start) := by
  cases step with
  | outside change same => exact .of_slots_eq (same start)
  | extract args => exact watch.fills_extract own args start
  | find handle call => exact fills_find own handle call start
  | insert cache call result => exact fills_insert own cache call result start
  | dispatch site resolver call => exact fills_dispatch own site resolver call start

theorem fills_run (steps : List (LibraryStep World Arg Val Ty R Err Fail))
    (start : Ambient World Ty R) :
    Fills start (watch.runReadings steps start) (afterRun host steps start) := by
  induction steps generalizing start with
  | nil => exact .of_slots_eq rfl
  | cons step steps ih => exact (fills_step own step start).trans (ih _)

end Fills

end Watch

section OnDemand

variable {host : Host World Arg Val Ty R Err} (watch : Watch host)

/-- What the slots of a run have to do with its classifications. -/
structure OnDemand (steps : List (LibraryStep World Arg Val Ty R Err Fail))
    (start : Ambient World Ty R) : Prop where
  made : ∀ ty kind, (afterRun host steps start).slots.isMade ty kind = true ↔
    ∃ reading ∈ watch.runReadings steps start, reading.Demands ty kind
  keyed : ∀ reading ∈ watch.runReadings steps start, ∀ key, reading.key = .ok key →
    ∃ view, reading.view = .ok view ∧ key = view.key (afterRun host steps start).slots
  kept : ∀ earlier later, steps = earlier ++ later → ∀ ty kind,
    (afterRun host earlier start).slots.isMade ty kind = true →
      (afterRun host steps start).slots.isMade ty kind = true ∧
        (afterRun host steps start).slots.key ty kind =
          (afterRun host earlier start).slots.key ty kind
  /-- What was classified while arguments were read counts as well, the failing one included. -/
  failed : ∀ args first cause halt, (extract host args).eval first = (.error cause, halt) →
    ∃ before culprit, host.readings args first = before ++ [culprit] ∧
      culprit.Fails cause halt ∧ (before ++ [culprit]).map Reading.arg <+: args ∧
      ∀ ty kind, halt.slots.isMade ty kind = true ↔ first.slots.isMade ty kind = true ∨
        (∃ reading ∈ before, reading.Demands ty kind) ∨
        ∃ outer ∈ before ++ [culprit], ∃ inner ∈ watch.inner outer.arg outer.start,
          inner.Demands ty kind
  /-- A binding that makes no slot, and the type of the container itself. -/
  bound : ∀ (reading : Reading World Arg Val Ty R Err) own value after,
    reading.host.isNativeStr reading.start.world reading.arg = false →
    reading.host.ownType reading.start.world reading.arg = some own →
    (reading.host.decontainerize reading.arg).eval reading.start = (.ok value, after) →
      (reading.host.isWritable after.world reading.arg = false ∨
          reading.host.isNativeRef own = true → reading.done.2.slots = after.slots) ∧
        (reading.host.typeOf after.world value ≠ own → ∀ kind,
          reading.done.2.slots.isMade own kind = after.slots.isMade own kind)

/-- Slots are made on demand. After a run that begins without any, those are made that some
classification of the run has called for, and no other. What a classification has answered is the
key of its view in the slots of the end, and a slot that is made at some point keeps its key. An
extraction that fails has made what the arguments before the failing one have called for, besides
what was classified inside. A binding that is read-only or holds native references makes no slot,
and the type of a container gets one only if it is the type of what is held. All this is so as long
as nobody else makes slots: user code comes by them only through what it has classified. -/
theorem slots_made_on_demand (own : watch.Keeps Ambient.SameSlots)
    (steps : List (LibraryStep World Arg Val Ty R Err Fail)) (start : Ambient World Ty R)
    (fresh : start.slots.made = []) : OnDemand watch steps start := by
  have fills : Fills start (watch.runReadings steps start) (afterRun host steps start) :=
    Watch.fills_run own steps start
  constructor
  case made =>
    intro ty kind
    have none : start.slots.isMade ty kind = false := by simp [SlotTable.isMade, fresh]
    rw [fills.made, none]
    exact or_iff_right Bool.false_ne_true
  case keyed =>
    intro reading member key given
    obtain ⟨view, seen, -, same⟩ := fills.keyed reading member key given
    exact ⟨view, seen, same⟩
  case kept =>
    rintro earlier later rfl ty kind made
    have rest := Watch.fills_run own later (afterRun host earlier start)
    rw [← afterRun_append] at rest
    exact rest.isMade_of_isMade made
  case failed =>
    intro args first cause halt failed
    obtain ⟨before, culprit, split, fails, made⟩ := watch.made_of_failed_extract own failed
    have order : (host.readings args first).map Reading.arg <+: args :=
      host.map_arg_readings_prefix first
    rw [split] at order
    exact ⟨before, culprit, split, fails, order, made⟩
  case bound =>
    intro reading own value after managed hasType read
    exact ⟨reading.slots_done_of_bound managed hasType read,
      reading.isMade_own_done managed hasType read⟩

/-- Reading the first container looks another one up, so the slot of that comes first. A native
reference makes none, and the extraction fails at the third argument. In the dispatch that follows,
the resolver has a type classified before the argument of the call is, for the insert. -/
theorem runtime_slots_on_demand :
    let code (arg : Declared.Arg) : UserCode Declared.World Declared.Arg String _ Declared.Val :=
      match arg.held with
      | none => .done (.error (⟨arg.id⟩ : Declared.Unreadable))
      | some type =>
        if arg.id = 1 then
          .find 0 ⟨[Declared.container 7 8], []⟩ fun _ => .done (.ok ⟨type, arg.isTypeObject⟩)
        else .done (.ok ⟨type, arg.isTypeObject⟩)
    let runtime : Runtime Declared.World Declared.Arg Declared.Val Nat String _ :=
      { (Declared.host [false, true] : Host _ _ _ _ String _).toQueries with code := code }
    let watch := runtime.watch ⟨0⟩ 2
    let type : Declared.Arg :=
      { id := 4, writable := true, own := some 0, held := some 6, isTypeObject := true }
    let ref : Declared.Arg := { id := 2, writable := true, own := some 1, held := some 4 }
    let resolver := WatchedResolver.ofCode watch (runtime.sameSlots_watch ⟨0⟩ 2)
      fun _ => .find 0 ⟨[type], []⟩ fun _ => .done (.ok "resolved")
    let steps : List (LibraryStep _ _ _ _ _ _ _) :=
      [.extract [Declared.container 1 3, ref, { id := 3, own := some 0 }],
        .dispatch (.new .skipDuplicates) resolver ⟨[Declared.container 5 5], []⟩]
    let start : Ambient Declared.World Nat String :=
      { world := [], shared := [.empty .skipDuplicates] }
    (afterRun (runtime.host ⟨0⟩ 2) steps start).slots.made =
        [(8, .inst), (3, .inst), (6, .typeObject), (5, .inst)] ∧
      ∀ ty kind, (afterRun (runtime.host ⟨0⟩ 2) steps start).slots.isMade ty kind = true ↔
        ∃ reading ∈ watch.runReadings steps start, reading.Demands ty kind := by
  intro code runtime watch type ref resolver steps start
  exact ⟨rfl, (slots_made_on_demand watch (runtime.sameSlots_watch ⟨0⟩ 2) steps start rfl).made⟩

/-- A host can make a slot itself while it reads an argument that calls for none, and reading an
argument in vain can have another one classified that does. -/
theorem slots_made_inside :
    (¬ ∀ (host : Host Declared.World Declared.Arg Declared.Val Nat String Declared.Unreadable)
      (watch : Watch host) (steps : List (LibraryStep _ _ _ _ _ _ Empty)) start,
      start.slots.made = [] → ∀ ty kind,
        (afterRun host steps start).slots.isMade ty kind = true →
          ∃ reading ∈ watch.runReadings steps start, reading.Demands ty kind) ∧
    ¬ ∀ (host : Host Declared.World Declared.Arg Declared.Val Nat String Declared.Unreadable)
      args start before culprit cause stop, start.slots.made = [] →
      host.readings args start = before ++ [culprit] →
      (extract host args).eval start = (.error cause, stop) → ∀ ty kind,
        stop.slots.isMade ty kind = true → ∃ reading ∈ before, reading.Demands ty kind := by
  constructor
  · intro demanded
    let host : Host Declared.World Declared.Arg Declared.Val Nat String Declared.Unreadable :=
      { (Declared.host [] : Host _ _ _ _ String _) with
        decontainerize := fun arg => do
          let _ ← Run.slotKey 8 .inst
          Declared.read arg }
    let arg : Declared.Arg := { id := 1, own := some 0, held := some 3 }
    obtain ⟨reading, member, demands⟩ := demanded host (.fromOutside host) [.extract [arg]]
      { world := [] } rfl 8 .inst rfl
    obtain rfl : reading = ⟨host, arg, { world := [] }⟩ := List.mem_singleton.mp member
    obtain ⟨view, seen, slot⟩ := Reading.demands_iff.mp demands
    cases seen
    cases slot
  · intro demanded
    let runtime : Runtime Declared.World Declared.Arg Declared.Val Nat String Declared.Unreadable :=
      { (Declared.host [] : Host _ _ _ _ String _).toQueries with
        code := fun arg => arg.held.elim
          (.find 0 ⟨[Declared.container 7 8], []⟩ fun _ => .done (.error ⟨arg.id⟩))
          fun type => .done (.ok ⟨type, arg.isTypeObject⟩) }
    obtain ⟨reading, member, -⟩ := demanded (runtime.host ⟨0⟩ 2) [{ id := 1, own := some 0 }]
      { world := [], shared := [.empty .skipDuplicates] } [] _ _ _ rfl rfl rfl 8 .inst rfl
    cases member

end OnDemand

end DispatchCache
