import DispatchCache.Proofs.Cache.ByFingerprint
import DispatchCache.Proofs.Cache.Told
import DispatchCache.Proofs.Cache.Unasked
import DispatchCache.Proofs.Classification.Stopping
import DispatchCache.Proofs.CallSite.Conservation

/-! # When the cache of a site is made

A site makes its cache when the first result is to be filed. Had it been made beforehand, it would
still be empty, so the first dispatch would miss all the same. The only difference is that
arguments are read for a lookup in an empty cache, and not for one without a cache. As long as they
look the same whenever they are read, this shows only where one of them cannot be read: with a
cache the call is not even resolved. -/

namespace DispatchCache

variable {World Arg Val Ty R Err Fail : Type} [DecidableEq Ty]

/-- What arguments look like when they are read from a state on: their views, or why one of them
cannot be read. -/
def Host.Shows (host : Host World Arg Val Ty R Err) (ambient : Ambient World Ty R)
    (args : List Arg) : Except Err (List (View Ty)) → Prop
  | .ok views => ∃ stop, host.Sees ambient args views stop
  | .error cause => ∃ stop, host.StopsAt ambient args cause stop

namespace CallSite

omit [DecidableEq Ty] in
/-- The same site with its cache made. -/
def made (site : CallSite Ty R) : CallSite Ty R := { site with cache := some site.opened }

/-- Results are filed alike whether the cache was made before or is made for them. -/
theorem file_made (site : CallSite Ty R) (host : Host World Arg Val Ty R Err) (call : Capture Arg)
    (result : R) :
    (site.made.file host call result : StateM _ (Dispatched Ty R Err Fail)) =
      site.file host call result := rfl

/-- A site that results were to be filed at has a cache. -/
theorem exists_cache_of_file (site : CallSite Ty R) (host : Host World Arg Val Ty R Err)
    (call : Capture Arg) (result : R) (ambient : Ambient World Ty R) :
    ∃ cache, ((site.file host call result : StateM _ (Dispatched Ty R Err Fail)).run
      ambient).1.site.cache = some cache := by
  rcases filed : site.filing host call result ambient with
    ⟨⟨cause, left⟩ | ⟨outcome, cache⟩, after⟩
  · rw [file_of_unfiled filed]
    exact ⟨_, rfl⟩
  · rw [file_of_filed filed]
    exact ⟨_, rfl⟩

namespace Moment

variable (moment other : Moment World Arg Val Ty R Err Fail)

omit [DecidableEq Ty] in
/-- The same dispatch of a site whose cache was made beforehand. -/
def made : Moment World Arg Val Ty R Err Fail := { moment with site := moment.site.made }

/-- The arguments look the same whenever the dispatch comes to read them. -/
structure Unchanging (shown : Except Err (List (View Ty))) : Prop where
  lookup : moment.host.Shows moment.ambient moment.call.positional shown
  insert : moment.resolved.1.isOk = true →
    moment.host.Shows moment.resolved.2 moment.call.positional shown

/-- Dispatches with the same answer that ask the resolver equally often, count the same, and leave
caches with the same contents if they succeed. -/
structure Matches : Prop where
  answer : other.dispatched.1.answer = moment.dispatched.1.answer
  asks : other.ending.asks = moment.ending.asks
  figure : ∀ figure, Counts figure moment.host moment.resolve moment.call →
    figure other.dispatched.2.world = figure moment.dispatched.2.world
  tally : other.dispatched.1.tally = moment.dispatched.1.tally
  contents : ∀ result, moment.dispatched.1.answer = .ok result →
    ∃ cache cache', moment.dispatched.1.site.cache = some cache ∧
      other.dispatched.1.site.cache = some cache' ∧
      cache'.told other.dispatched.2.slots = cache.told moment.dispatched.2.slots

variable {moment} {seen mid after : Ambient World Ty R}

theorem dispatched_of_unresolved {cause : Fail} (looked : moment.looked = (.ok none, seen))
    (resolved : moment.resolved = (.error cause, after)) :
    moment.dispatched = (⟨.error (.resolve cause), moment.site, .miss⟩, after) :=
  dispatch_of_unresolved looked ((resolved_of_looking looked).symm.trans resolved)

theorem dispatched_of_resolved {result : R} (looked : moment.looked = (.ok none, seen))
    (resolved : moment.resolved = (.ok result, mid)) :
    moment.dispatched = (moment.site.file moment.host moment.call result).run mid :=
  dispatch_of_resolved looked ((resolved_of_looking looked).symm.trans resolved)

/-- Once the resolver was asked, a figure that counts its calls is up by one. -/
theorem figure_of_looked {figure : World → Nat} (looked : moment.looked = (.ok none, seen))
    (counts : Counts figure moment.host moment.resolve moment.call) :
    figure moment.dispatched.2.world = figure moment.ambient.world + 1 := by
  have asked := asks_iff.mpr (congrArg Prod.fst looked)
  rw [moment.figure_dispatched counts, moment.ending.misses_tally_eq_asks, if_pos asked]

section Vacant

variable (vacant : moment.site.opened = Cache.empty moment.site.policy)
variable (shape : moment.call.shape maxArity = .positional moment.call.arity)
variable {result : R}

include vacant shape

/-- Where nothing is held yet, a result whose arguments can be read is filed in a new cache. -/
theorem file_of_sees {views : List (View Ty)}
    (sees : moment.host.Sees mid moment.call.positional views after) :
    let filed := (Cache.empty moment.site.policy).insertFingerprint
      ⟨views.map (View.key after.slots)⟩ result
    (moment.site.file moment.host moment.call result :
        StateM _ (Dispatched Ty R Err Fail)).run mid =
      (⟨.ok result, { moment.site with cache := some filed.2 }, .miss + .ofOutcome filed.1⟩,
        after) := by
  intro filed
  have inserted : moment.site.filing moment.host moment.call result mid = (.ok filed, after) := by
    rw [filing, vacant]
    exact Cache.eval_insert_of_read result shape (Cache.isFull_empty _ _) sees.eval_extract
  exact file_of_filed inserted

theorem file_of_stopsAt {cause : Err}
    (stops : moment.host.StopsAt mid moment.call.positional cause after) :
    (moment.site.file moment.host moment.call result :
        StateM _ (Dispatched Ty R Err Fail)).run mid =
      (⟨.error (.decontainerize cause), moment.site.made, .miss⟩, after) := by
  have unread : moment.site.filing moment.host moment.call result mid =
      (.error ⟨cause, moment.site.opened⟩, after) := by
    rw [filing, vacant]
    exact Cache.eval_insert_of_unread result shape (Cache.isFull_empty _ _)
      (Host.eval_extract_eq_error_iff.mpr stops)
  exact file_of_unfiled unread

/-- A dispatch that misses and can read its arguments answers what the resolver does. -/
theorem answer_of_sees {views : List (View Ty)} (looked : moment.looked = (.ok none, seen))
    (unchanging : moment.Unchanging (.ok views)) :
    moment.dispatched.1.answer = moment.resolved.1.mapError .resolve := by
  have again := unchanging.insert
  rcases resolved : moment.resolved with ⟨cause | result, mid⟩
  · rw [dispatched_of_unresolved looked resolved]
    rfl
  · rw [resolved] at again
    obtain ⟨after, sees⟩ := again rfl
    rw [dispatched_of_resolved looked resolved, file_of_sees vacant shape sees]
    rfl

end Vacant

section Absent

variable (absent : moment.site.cache = none)

include absent

theorem looked_of_absent : moment.looked = (.ok none, moment.ambient) := by
  rw [looked, looking, absent]
  rfl

omit [DecidableEq Ty] in
theorem opened_of_absent : moment.site.opened = Cache.empty moment.site.policy := by
  rw [opened, absent, Option.getD_none]

theorem looked_made : moment.made.looked =
    ((Cache.empty moment.site.policy).lookup moment.host moment.call).eval moment.ambient := by
  rw [← opened_of_absent absent]
  rfl

/-- Calls without arguments, with named ones or with too many are missed by a new cache, and
nothing is read. -/
theorem looked_made_of_decided (decided : moment.call.Decided) :
    moment.made.looked = (.ok none, moment.ambient) := by
  rw [looked_made absent, Cache.eval_lookup_of_decided moment.ambient _ moment.host decided]
  unfold Cache.foundUnread
  cases moment.call.shape maxArity <;> rfl

/-- Arguments that can all be read are read in vain, and the slots that they call for are made. -/
theorem looked_made_of_sees {views : List (View Ty)}
    (shape : moment.call.shape maxArity = .positional moment.call.arity)
    (sees : moment.host.Sees moment.ambient moment.call.positional views seen) :
    moment.made.looked = (.ok none, seen.note (.lookup moment.call.arity false)) := by
  rw [looked_made absent, Cache.eval_lookup_of_read _ shape sees.eval_extract, Cache.get_empty]
  rfl

/-- Dispatches that miss match as soon as their answers, what they count and their caches do. -/
theorem Matches.of_looked (looked : moment.made.looked = (.ok none, seen))
    (answer : moment.made.dispatched.1.answer = moment.dispatched.1.answer)
    (tally : moment.made.dispatched.1.tally = moment.dispatched.1.tally)
    (contents : ∀ result, moment.dispatched.1.answer = .ok result →
      ∃ cache cache', moment.dispatched.1.site.cache = some cache ∧
        moment.made.dispatched.1.site.cache = some cache' ∧
        cache'.told moment.made.dispatched.2.slots = cache.told moment.dispatched.2.slots) :
    moment.Matches moment.made where
  answer := answer
  tally := tally
  contents := contents
  asks := by
    have asked := asks_iff.mpr (congrArg Prod.fst (looked_of_absent absent))
    rw [asked, asks_iff.mpr (congrArg Prod.fst looked)]
  figure figure counts := by
    rw [figure_of_looked (looked_of_absent absent) counts]
    exact figure_of_looked looked counts

/-- A call whose arguments are not read goes the same way with and without a cache. -/
theorem matches_of_decided (decided : moment.call.Decided) : moment.Matches moment.made := by
  have looked := looked_of_absent absent
  have looked' := looked_made_of_decided absent decided
  have alike : moment.made.resolved = moment.resolved := by
    rw [Moment.resolved, Moment.resolved, looked, looked']
    rfl
  rcases resolved : moment.resolved with ⟨cause | result, mid⟩
  · have done := dispatched_of_unresolved looked resolved
    have done' := dispatched_of_unresolved looked' (alike.trans resolved)
    refine .of_looked absent looked' ?_ ?_ ?_
    · rw [done, done']
    · rw [done, done']
    · intro result succeeds
      rw [done] at succeeds
      cases succeeds
  · have same : moment.made.dispatched = moment.dispatched := by
      rw [dispatched_of_resolved looked resolved,
        dispatched_of_resolved looked' (alike.trans resolved)]
      exact congrArg (StateT.run · mid) (file_made moment.site moment.host moment.call result)
    obtain ⟨cache, cached⟩ : ∃ cache, moment.dispatched.1.site.cache = some cache := by
      rw [dispatched_of_resolved looked resolved]
      exact exists_cache_of_file _ _ _ _ _
    refine .of_looked absent looked' (by rw [same]) (by rw [same]) fun _ _ =>
      ⟨cache, cache, cached, by rw [same, cached], by rw [same]⟩

/-- A call whose arguments can all be read, and look the same throughout, has the same outcome with
and without a cache. -/
theorem matches_of_sees {views : List (View Ty)}
    (shape : moment.call.shape maxArity = .positional moment.call.arity)
    (unchanging : moment.Unchanging (.ok views)) (unchanging' : moment.made.Unchanging (.ok views))
    (alike : moment.made.resolved.1 = moment.resolved.1) : moment.Matches moment.made := by
  obtain ⟨seen, sees⟩ := unchanging.lookup
  have looked := looked_of_absent absent
  have looked' := looked_made_of_sees absent shape sees
  have vacant := opened_of_absent absent
  have vacant' : moment.made.site.opened = Cache.empty moment.made.site.policy := vacant
  have answer : moment.made.dispatched.1.answer = moment.dispatched.1.answer := by
    rw [answer_of_sees vacant shape looked unchanging,
      answer_of_sees vacant' shape looked' unchanging', alike]
  rcases resolved : moment.resolved with ⟨cause | result, mid⟩
  · rcases resolved' : moment.made.resolved with ⟨answer', mid'⟩
    rw [resolved, resolved'] at alike
    obtain rfl : answer' = .error cause := alike
    have done := dispatched_of_unresolved looked resolved
    have done' := dispatched_of_unresolved looked' resolved'
    refine .of_looked absent looked' answer ?_ ?_
    · rw [done, done']
    · intro result succeeds
      rw [done] at succeeds
      cases succeeds
  · rcases resolved' : moment.made.resolved with ⟨answer', mid'⟩
    rw [resolved, resolved'] at alike
    obtain rfl : answer' = .ok result := alike
    obtain ⟨after, again⟩ : moment.host.Shows mid moment.call.positional (.ok views) := by
      have again := unchanging.insert
      rw [resolved] at again
      exact again rfl
    obtain ⟨after', again'⟩ : moment.host.Shows mid' moment.call.positional (.ok views) := by
      have again' := unchanging'.insert
      rw [resolved'] at again'
      exact again' rfl
    have done := (dispatched_of_resolved looked resolved).trans (file_of_sees vacant shape again)
    have done' :=
      (dispatched_of_resolved looked' resolved').trans (file_of_sees vacant' shape again')
    have same : (⟨views.map (View.key after'.slots)⟩ : Fingerprint Ty).told after'.slots =
        (⟨views.map (View.key after.slots)⟩ : Fingerprint Ty).told after.slots := by
      rw [View.told_keys again.eval_extractKeys.2.2, View.told_keys again'.eval_extractKeys.2.2]
    obtain ⟨outcome, contents⟩ :=
      Cache.told_insertFingerprint_empty moment.site.policy same result
    refine .of_looked absent looked' answer ?_ ?_
    · rw [done, done']
      exact congrArg (fun outcome => Counters.miss + .ofOutcome outcome) outcome
    · rw [done, done']
      exact fun _ _ => ⟨_, _, rfl, rfl, contents⟩

/-- A call with an argument that cannot be read is not resolved where there is a cache. -/
theorem dispatched_made_of_stopsAt {cause : Err}
    (shape : moment.call.shape maxArity = .positional moment.call.arity)
    (stops : moment.host.StopsAt moment.ambient moment.call.positional cause after) :
    moment.made.looked = (.error cause, after) ∧
      moment.made.dispatched = (⟨.error (.decontainerize cause), moment.made.site, {}⟩, after) := by
  have looked : moment.made.looked = (.error cause, after) := by
    rw [looked_made absent]
    exact Cache.eval_lookup_of_unread _ shape (Host.eval_extract_eq_error_iff.mpr stops)
  exact ⟨looked, dispatch_of_unread looked⟩

/-- Where there is none, it is resolved first, and fails once its result is to be filed. -/
theorem dispatched_of_stopsAt {cause : Err}
    (shape : moment.call.shape maxArity = .positional moment.call.arity)
    (unchanging : moment.Unchanging (.error cause)) :
    moment.dispatched.1.tally = .miss ∧
      moment.dispatched.1.answer =
        match moment.resolved.1 with
        | .error failure => .error (.resolve failure)
        | .ok _ => .error (.decontainerize cause) := by
  have looked := looked_of_absent absent
  have again := unchanging.insert
  rcases resolved : moment.resolved with ⟨failure | result, mid⟩
  · rw [dispatched_of_unresolved looked resolved]
    exact ⟨rfl, rfl⟩
  · rw [resolved] at again
    obtain ⟨after, stops⟩ := again rfl
    rw [dispatched_of_resolved looked resolved,
      file_of_stopsAt (opened_of_absent absent) shape stops]
    exact ⟨rfl, rfl⟩

end Absent

end Moment

namespace Moment

/-- How a call fails for an argument that cannot be read, with a cache made beforehand and without:
at once, or not before its result is to be filed. -/
structure FailsApart (moment : Moment World Arg Val Ty R Err Fail) (cause : Err) : Prop where
  made : moment.made.dispatched.1 = ⟨.error (.decontainerize cause), moment.made.site, {}⟩
  unasked : moment.made.ending.asks = false
  tally : moment.dispatched.1.tally = .miss
  asked : moment.ending.asks = true
  /-- A failure of the resolver comes first. -/
  answer : moment.dispatched.1.answer =
    match moment.resolved.1 with
    | .error failure => .error (.resolve failure)
    | .ok _ => .error (.decontainerize cause)
  figure : ∀ figure, Counts figure moment.host moment.resolve moment.call →
    figure moment.made.dispatched.2.world = figure moment.ambient.world ∧
      figure moment.dispatched.2.world = figure moment.ambient.world + 1

/-- How a dispatch of a site without a cache compares with the same dispatch had the cache been
made beforehand. -/
structure ComparesWithMade (moment : Moment World Arg Val Ty R Err Fail) : Prop where
  decided : moment.call.Decided → moment.Matches moment.made
  /-- With arguments that can be read, the resolver is asked either way, and its answer is the
  answer. -/
  answers : ¬ moment.call.Decided → ∀ views, moment.Unchanging (.ok views) →
    moment.made.Unchanging (.ok views) → ∀ either ∈ [moment, moment.made],
      either.ending.asks = true ∧ either.dispatched.1.answer = either.resolved.1.mapError .resolve
  alike : ¬ moment.call.Decided → ∀ views, moment.Unchanging (.ok views) →
    moment.made.Unchanging (.ok views) → moment.made.resolved.1 = moment.resolved.1 →
      moment.Matches moment.made
  unreadable : ¬ moment.call.Decided → ∀ cause, moment.Unchanging (.error cause) →
    moment.FailsApart cause

end Moment

/-- A dispatch of a site without a cache, and the same dispatch had the cache been made beforehand.
For calls with named arguments, without arguments or with too many they match. Where all arguments
can be read, and look the same throughout, both ask the resolver and answer what it does, and they
match if it answers both alike. Where one of the arguments cannot be read, the call fails for it at
once if there is a cache: the resolver is not asked and nothing is counted. Without a cache that is
a miss, and the resolver is asked once. Its failure is the answer, and if it does not fail, the call
fails for the argument. -/
theorem dispatched_without_cache {moment : Moment World Arg Val Ty R Err Fail}
    (absent : moment.site.cache = none) : moment.ComparesWithMade := by
  have missed := Moment.looked_of_absent absent
  have vacant := Moment.opened_of_absent absent
  constructor
  case decided => exact Moment.matches_of_decided absent
  case answers =>
    intro undecided views unchanging unchanging'
    have shape := Capture.shape_of_not_decided undecided
    obtain ⟨seen, sees⟩ := unchanging.lookup
    have missed' := Moment.looked_made_of_sees absent shape sees
    simp only [List.forall_mem_cons, List.not_mem_nil, false_implies, implies_true, and_true]
    exact ⟨⟨Moment.asks_iff.mpr (congrArg Prod.fst missed),
        Moment.answer_of_sees vacant shape missed unchanging⟩,
      Moment.asks_iff.mpr (congrArg Prod.fst missed'),
        Moment.answer_of_sees vacant shape missed' unchanging'⟩
  case alike =>
    intro undecided views unchanging unchanging' alike
    have shape := Capture.shape_of_not_decided undecided
    exact Moment.matches_of_sees absent shape unchanging unchanging' alike
  case unreadable =>
    intro undecided cause unchanging
    have shape := Capture.shape_of_not_decided undecided
    obtain ⟨stop, stops⟩ := unchanging.lookup
    obtain ⟨looked, done⟩ := Moment.dispatched_made_of_stopsAt absent shape stops
    obtain ⟨tally, answer⟩ := Moment.dispatched_of_stopsAt absent shape unchanging
    have asked := Moment.asks_iff.mpr (congrArg Prod.fst missed)
    have unread : moment.made.ending = .unread := Moment.ending_of_unread looked
    refine ⟨congrArg Prod.fst done, by rw [unread, Ending.asks], tally, asked, answer,
      fun figure counts => ⟨?_, Moment.figure_of_looked missed counts⟩⟩
    have kept := moment.made.figure_dispatched counts
    rw [unread] at kept
    exact kept

/-- A call with a named argument, one with a container, whose slot is made sooner where there is a
cache, and one with an argument that cannot be read. -/
theorem declared_without_cache :
    let moment (call : Capture Declared.Arg) : Moment Declared.World Declared.Arg Declared.Val Nat
        String Declared.Unreadable Empty :=
      ⟨new .skipDuplicates, { world := [] }, Declared.host [], fun _ => pure "resolved", call⟩
    let named := moment ⟨[], [("flag", { id := 3 })]⟩
    let writable := moment ⟨[{ id := 5, writable := true, own := some 0, held := some 3 }], []⟩
    let unreadable := moment ⟨[{ id := 7, own := some 0 }], []⟩
    named.Matches named.made ∧ writable.Matches writable.made ∧
      unreadable.made.dispatched.1 =
        ⟨.error (.decontainerize ⟨7⟩), unreadable.made.site, {}⟩ ∧
      unreadable.dispatched.1.tally = .miss ∧
      unreadable.dispatched.1.answer = .error (.decontainerize ⟨7⟩) := by
  intro moment named writable unreadable
  have compared := dispatched_without_cache (rfl : named.site.cache = none)
  have compared' := dispatched_without_cache (rfl : writable.site.cache = none)
  have compared'' := dispatched_without_cache (rfl : unreadable.site.cache = none)
  have shows : ∀ ambient, writable.host.Shows ambient writable.call.positional
      (.ok [.writable 3 false]) := fun ambient => ⟨_, .cons rfl List.prefix_rfl (.nil _)⟩
  have stops : ∀ ambient, unreadable.host.Shows ambient unreadable.call.positional
      (.error ⟨7⟩) := fun ambient => ⟨_, Host.eval_extract_eq_error_iff.mp rfl⟩
  have undecided : ¬ writable.call.Decided := by decide
  have undecided' : ¬ unreadable.call.Decided := by decide
  have failing := compared''.unreadable undecided' ⟨7⟩ ⟨stops _, fun _ => stops _⟩
  exact ⟨compared.decided (.inl rfl),
    compared'.alike undecided [.writable 3 false] ⟨shows _, fun _ => shows _⟩
      ⟨shows _, fun _ => shows _⟩ rfl,
    failing.made, failing.tally, failing.answer⟩

/-- A resolver may look at what reading the arguments has done. Then it can tell whether there was a
cache to look the call up in, although the arguments look the same whenever they are read. One that
remembers its calls tells a site with an empty cache from the site that it was asked for before. -/
theorem resolver_tells_cache :
    (¬ ∀ (moment : Moment Declared.World Declared.Arg Declared.Val Nat String Declared.Unreadable
        Empty) (views : List (View Nat)),
      moment.site.cache = none → ¬ moment.call.Decided →
      moment.Unchanging (.ok views) → moment.made.Unchanging (.ok views) →
      moment.made.dispatched.1.answer = moment.dispatched.1.answer) ∧
    ¬ ∀ (moment other : Moment Declared.World Declared.Arg Declared.Val Nat String
        Declared.Unreadable Empty) (views : List (View Nat)),
      moment.site.cache = none → ¬ moment.call.Decided →
      other = { moment.made with ambient := moment.dispatched.2 } →
      moment.Unchanging (.ok views) → other.Unchanging (.ok views) →
      other.dispatched.1.answer = moment.dispatched.1.answer := by
  let object : Capture Declared.Arg := ⟨[{ id := 5, own := some 0, held := some 3 }], []⟩
  have undecided : ¬ object.Decided := by decide
  have shows : ∀ ambient : Ambient Declared.World Nat String,
      (Declared.host [] : Host _ _ _ _ String _).Shows ambient object.positional
        (.ok [.plain 3 false]) :=
    fun _ => ⟨_, .cons rfl List.prefix_rfl (.nil _)⟩
  constructor
  · intro same
    have told := same ⟨new .allowDuplicates, { world := [] }, Declared.host [],
        fun _ => do return if (← Run.world).isEmpty then "first to read" else "read before", object⟩
      [.plain 3 false] rfl undecided ⟨shows _, fun _ => shows _⟩ ⟨shows _, fun _ => shows _⟩
    revert told
    decide
  · intro same
    have told := same ⟨new .allowDuplicates, { world := [] }, Declared.host [],
        fun _ => do
          let world ← Run.world
          modify fun ambient => { ambient with world := 0 :: world }
          return if world.contains 0 then "again" else "first", object⟩
      _ [.plain 3 false] rfl undecided rfl ⟨shows _, fun _ => shows _⟩ ⟨shows _, fun _ => shows _⟩
    revert told
    decide

end CallSite

end DispatchCache
