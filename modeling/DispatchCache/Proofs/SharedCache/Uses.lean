import DispatchCache.Proofs.Deeds

/-! # The uses of one shared cache

Of all deeds of a run only the uses of a shared cache change what it holds, and each of them
does so at once, by what it finds. So what holds of the uses so far and of the cache behind a
place is shown use by use, for runs of any nesting. -/

namespace DispatchCache

variable {World Arg Val Ty R Err : Type}

/-- Shared caches are left alone. -/
def Ambient.Shares (before after : Ambient World Ty R) : Prop := after.shared = before.shared

variable [DecidableEq Ty]

namespace Use

/-- What a use can answer and make of the cache that its access finds. -/
inductive Effect (use : Use World Arg Val Ty R Err) (cache : Cache Ty R) : Cache Ty R → Prop where
  | refused {reason} (shape : (use.request.call.shape maxArity).refusal? = some reason)
      (answer : use.answer = .ok (use.request.refused reason)) : Effect use cache cache
  | full {call result} (request : use.request = .add call result)
      (shape : (use.request.call.shape maxArity).refusal? = none)
      (full : cache.isFull call.arity = true)
      (answer : use.answer = .ok (.filed (.dropped .bucketFull))) (unread : use.print? = none) :
      Effect use cache cache
  | unread {cause} (answer : use.answer = .error cause) : Effect use cache cache
  | read {print} (shape : (use.request.call.shape maxArity).refusal? = none)
      (read : use.print? = some print) (arity : print.arity = use.request.call.arity)
      (answer : use.answer = .ok (cache.access print use.request).1) :
      Effect use cache (cache.access print use.request).2

variable (use : Use World Arg Val Ty R Err)

theorem effect (here : use.place < use.before.shared.length) :
    use.Effect (use.before.cacheAt use.place) (use.after.cacheAt use.place) := by
  cases use.ending with
  | refused shape answer kept =>
    rw [kept]
    exact .refused shape answer
  | full request shape full answer unread kept =>
    rw [kept]
    exact .full request shape full answer unread
  | unread answer kept =>
    rw [kept]
    exact .unread answer
  | @read print shape read arity answer after =>
    rw [Ambient.access_fst] at answer
    have filed : use.after.cacheAt use.place =
        ((use.before.cacheAt use.place).access print use.request).2 := by
      rw [after]
      exact Ambient.cacheAt_access _ _ _ here
    rw [filed]
    exact .read shape read arity answer

theorem cacheAt_of_ne {place : Nat} (apart : place ≠ use.place) :
    use.after.cacheAt place = use.before.cacheAt place := by
  rcases use.after_cases with kept | ⟨print, after⟩
  · rw [kept]
  · rw [after, Ambient.cacheAt, Ambient.sharedAt_access_of_ne _ _ _ apart, Ambient.cacheAt]

theorem length_shared : use.after.shared.length = use.before.shared.length := by
  rcases use.after_cases with kept | ⟨print, after⟩
  · rw [kept]
  · rw [after, Ambient.length_access]

end Use

namespace Deed

/-- The use of the shared cache at a place that a deed is, if it is one. -/
def useAt? (place : Nat) : Deed World Arg Val Ty R Err → Option (Use World Arg Val Ty R Err)
  | .use served => if served.place = place then some served else none
  | .change _ _ | .read _ => none

theorem shared_read (reading : Reading World Arg Val Ty R Err) :
    (Deed.read reading).after.shared = (Deed.read reading).before.shared := by
  rw [before, after, Reading.done, Host.eval_classify]
  cases reading.host.view reading.arg reading.start with
  | error cause => rfl
  | ok view => exact (view.demand_keeps _).2

theorem length_shared {deed : Deed World Arg Val Ty R Err} (shares : deed.Keeps Ambient.Shares) :
    deed.after.shared.length = deed.before.shared.length := by
  cases deed with
  | change before after => exact congrArg List.length shares
  | read reading => rw [shared_read]
  | use served => exact served.length_shared

omit [DecidableEq Ty] in
theorem eq_use_of_useAt? {place : Nat} {deed : Deed World Arg Val Ty R Err}
    {use : Use World Arg Val Ty R Err} (isUse : deed.useAt? place = some use) :
    deed = .use use ∧ use.place = place := by
  cases deed with
  | change before after => cases isUse
  | read reading => cases isUse
  | use served =>
    simp only [useAt?, Option.ite_none_right_eq_some, Option.some.injEq] at isUse
    obtain ⟨here, rfl⟩ := isUse
    exact ⟨rfl, here⟩

theorem cacheAt_of_useAt? {place : Nat} {deed : Deed World Arg Val Ty R Err}
    (shares : deed.Keeps Ambient.Shares) (none : deed.useAt? place = none) :
    deed.after.cacheAt place = deed.before.cacheAt place := by
  have ofShared : deed.after.shared = deed.before.shared →
      deed.after.cacheAt place = deed.before.cacheAt place := by
    intro same
    simp only [Ambient.cacheAt, Ambient.sharedAt, same]
  cases deed with
  | change before after => exact ofShared shares
  | read reading => exact ofShared (shared_read reading)
  | use served =>
    apply served.cacheAt_of_ne
    rintro rfl
    simp [useAt?] at none

end Deed

omit [DecidableEq Ty] in
/-- The uses of the shared cache at a place among the deeds of a run, in order. -/
def usesAt (place : Nat) (deeds : List (Deed World Arg Val Ty R Err)) :
    List (Use World Arg Val Ty R Err) :=
  deeds.filterMap (Deed.useAt? place)

/-- What one use preserves holds after a run, of all uses in it and of the cache it leaves. -/
theorem Linked.invariant {place : Nat} {start stop : Ambient World Ty R}
    {deeds : List (Deed World Arg Val Ty R Err)}
    {holds : List (Use World Arg Val Ty R Err) → Cache Ty R → Prop}
    (step : ∀ past use cache cache', use.Effect cache cache' → holds past cache →
      holds (past ++ [use]) cache')
    (linked : Linked start deeds stop) (shares : ∀ deed ∈ deeds, deed.Keeps Ambient.Shares)
    (here : place < start.shared.length) (past : List (Use World Arg Val Ty R Err))
    (first : holds past (start.cacheAt place)) :
    holds (past ++ usesAt place deeds) (stop.cacheAt place) := by
  induction linked generalizing past with
  | nil => simpa [usesAt] using first
  | cons deed rest ih =>
    obtain ⟨shared, later⟩ := List.forall_mem_cons.mp shares
    have there := (Deed.length_shared shared).symm ▸ here
    cases isUse : deed.useAt? place with
    | none =>
      rw [usesAt, List.filterMap_cons_none isUse]
      apply ih later there
      rwa [Deed.cacheAt_of_useAt? shared isUse]
    | some use =>
      obtain ⟨rfl, rfl⟩ := Deed.eq_use_of_useAt? isUse
      rw [usesAt, List.filterMap_cons_some isUse, List.append_cons]
      exact ih later there _ (step past use _ _ (use.effect here) first)

/-- No deed adds or removes a shared cache. -/
theorem Linked.length_shared_of_mem {start stop : Ambient World Ty R}
    {deeds : List (Deed World Arg Val Ty R Err)} (linked : Linked start deeds stop)
    (shares : ∀ deed ∈ deeds, deed.Keeps Ambient.Shares) {deed : Deed World Arg Val Ty R Err}
    (member : deed ∈ deeds) : deed.before.shared.length = start.shared.length := by
  induction linked with
  | nil => cases member
  | cons first rest ih =>
    obtain ⟨shared, later⟩ := List.forall_mem_cons.mp shares
    rcases List.mem_cons.mp member with rfl | member
    · rfl
    · rw [ih later member, Deed.length_shared shared]

section Moments

variable {Out : Type} (runtime : Runtime World Arg Val Ty R Err) (tooDeep : Err) (depth : Nat)
variable (code : UserCode World Arg R Err Out)
variable {start : Ambient World Ty R} {past : List (Deed World Arg Val Ty R Err)}

/-- At each moment of a run its deeds so far lead to the state it has reached, and outside the
library nothing has touched a shared cache. -/
theorem UserCode.linked_of_prefix
    (moment : past <+: code.deeds (runtime.host tooDeep depth)
      (runtime.watch tooDeep depth).deeds start) :
    Linked start past (reached start past) ∧ ∀ deed ∈ past, deed.Keeps Ambient.Shares := by
  have linked := code.linked_deeds (runtime.watch tooDeep depth) start
  have keeps : (runtime.watch tooDeep depth).Keeps Ambient.Shares :=
    runtime.keeps_watch tooDeep (fun _ _ => rfl) depth
  constructor
  · obtain ⟨rest, whole⟩ := moment
    rw [← whole] at linked
    exact linked.of_append
  · intro deed member
    exact code.keeps_deeds keeps (fun _ _ => rfl) start deed (moment.subset member)

/-- What one use preserves holds at every moment of a run of user code, of all uses so far and
of the cache as it is then, if it holds of a new cache. -/
theorem UserCode.holds_of_prefix {place : Nat} {policy : InsertPolicy}
    (fresh : start.shared[place]? = some (SharedCache.empty policy))
    {holds : List (Use World Arg Val Ty R Err) → Cache Ty R → Prop}
    (step : ∀ past use cache cache', use.Effect cache cache' → holds past cache →
      holds (past ++ [use]) cache')
    (first : holds [] (Cache.empty policy))
    (moment : past <+: code.deeds (runtime.host tooDeep depth)
      (runtime.watch tooDeep depth).deeds start) :
    holds (usesAt place past) ((reached start past).cacheAt place) := by
  obtain ⟨linked, shares⟩ := code.linked_of_prefix runtime tooDeep depth moment
  have here : place < start.shared.length := (List.getElem?_eq_some_iff.mp fresh).1
  rw [← Ambient.cacheAt_of_fresh fresh] at first
  have now := linked.invariant step shares here [] first
  rwa [List.nil_append] at now

end Moments

end DispatchCache

namespace DispatchCache.Reentrant

/-- Reading `nested` files a result in the very cache that is being used. So does reading
`failing`, and fails after that. -/
inductive Arg where
  | plain
  | nested
  | failing
  deriving DecidableEq, Repr

/-- All arguments hold an instance of one type. -/
def runtime : Runtime Unit Arg Unit Nat String String where
  isNativeStr _ _ := false
  isNativeInt _ _ := false
  isNativeNum _ _ := false
  ownType _ _ := some 0
  isWritable _ _ := false
  typeOf _ _ := 0
  isTypeObject _ _ := false
  isNativeRef _ := false
  code
    | .plain => .done (.ok ())
    | .nested => .add 0 ⟨[.plain], []⟩ "inner" fun _ => .done (.ok ())
    | .failing => .add 0 ⟨[.plain, .plain], []⟩ "kept" fun _ => .done (.error "gone")

/-- Two results are filed, the second in vain, and the first shape is looked up. -/
def session : UserCode Unit Arg String String Unit :=
  .add 0 ⟨[.nested], []⟩ "outer" fun _ =>
    .add 0 ⟨[.failing], []⟩ "lost" fun _ =>
      .find 0 ⟨[.plain], []⟩ fun _ => .done (.ok ())

def start (policy : InsertPolicy) : Ambient Unit Nat String :=
  { world := (), shared := [.empty policy] }

def uses (policy : InsertPolicy) : List (Use Unit Arg Unit Nat String String) :=
  usesAt 0 (session.deeds (runtime.host "deep" 2) (runtime.watch "deep" 2).deeds (start policy))

example : (uses .skipDuplicates).map Use.answer =
    [.ok (.filed .stored), .ok (.filed .duplicate), .ok (.filed .stored), .error "gone",
      .ok (.found (some "inner"))] := rfl

end DispatchCache.Reentrant
