import DispatchCache.Proofs.Cache.Unasked
import DispatchCache.Proofs.CallSite.Ending
import DispatchCache.Proofs.Classification.Order

/-! # How often a dispatch reads its arguments

A dispatch passes over its arguments once to look the call up, if it has a cache, and once to file
the resolved result, if there is room for it. In each pass an argument is decontainerized once or
not at all. Nothing else of a dispatch does so, which a host shows that keeps a record of it. -/

namespace DispatchCache

variable {World Arg Val Ty R Err Fail α : Type}

/-- A run in a world that has a record beside it, which the run leaves alone. -/
def Run.beside (run : Run World Ty R Err α) : Run (World × List Arg) Ty R Err α :=
  ExceptT.mk fun ambient =>
    let (answer, after) := run.eval ambient.forget
    (answer, after.recall ambient.world.2)

theorem Run.eval_beside (run : Run World Ty R Err α) (ambient : Ambient World Ty R)
    (record : List Arg) :
    run.beside.eval (ambient.recall record) =
      ((run.eval ambient).1, (run.eval ambient).2.recall record) := rfl

theorem Ambient.note_recall (ambient : Ambient World Ty R) (event : Event) (record : List Arg) :
    (ambient.recall record).note event = (ambient.note event).recall record := rfl

namespace Reading

/-- The arguments that are decontainerized, in order. -/
def openedIn (readings : List (Reading World Arg Val Ty R Err)) : List Arg :=
  (readings.filter Reading.opens).map Reading.arg

end Reading

variable [DecidableEq Ty]

namespace CallSite

section Opens

variable (site : CallSite Ty R) (host : Host World Arg Val Ty R Err) (call : Capture Arg)
variable (start : Ambient World Ty R)

/-- The arguments that looking a call up decontainerizes, if it is these that decide. -/
def opensToLook : List Arg :=
  if site.cache.isSome then Reading.openedIn (host.readings call.positional start) else []

/-- The arguments that filing a result decontainerizes, if it is these that decide. -/
def opensToFile : List Arg :=
  if site.opened.isFull call.arity then []
  else Reading.openedIn (host.readings call.positional start)

end Opens

section Recorded

variable {host : Host World Arg Val Ty R Err} {resolve : Resolver World Arg Ty R Fail}
variable {call : Capture Arg} {start seen mid after : Ambient World Ty R}
variable (record : List Arg) {arity : Nat}

theorem looking_recorded (site : CallSite Ty R) (shape : call.shape maxArity = .positional arity)
    {answer : Except Err (Option R)} (looked : site.looking host call start = (answer, seen)) :
    site.looking host.recorded call (start.recall record) =
      (answer, seen.recall (record ++ site.opensToLook host call start)) := by
  rcases site with ⟨_ | cache, policy⟩
  · cases looked
    change _ = (_, Ambient.recall start (record ++ []))
    rw [List.append_nil]
    rfl
  · have recorded := host.eval_extract_recorded call.positional start record
    rcases read : (extract host call.positional).eval start with ⟨cause | print, stop⟩
    · rw [read] at recorded
      cases (cache.eval_lookup_of_unread shape read).symm.trans looked
      exact cache.eval_lookup_of_unread shape recorded
    · rw [read] at recorded
      cases (cache.eval_lookup_of_read shape read).symm.trans looked
      exact cache.eval_lookup_of_read shape recorded

theorem filing_recorded (site : CallSite Ty R) (shape : call.shape maxArity = .positional arity)
    {result : R} {answer : Except (Halted (Cache Ty R) Err) (InsertOutcome × Cache Ty R)}
    (filed : site.filing host call result mid = (answer, after)) :
    site.filing host.recorded call result (mid.recall record) =
      (answer, after.recall (record ++ site.opensToFile host call mid)) := by
  obtain ⟨rfl, -, -⟩ := Capture.arity_of_positional shape
  unfold opensToFile
  cases full : site.opened.isFull call.arity with
  | true =>
    cases (site.opened.eval_insert_of_full host result mid shape full).symm.trans filed
    rw [if_pos rfl, List.append_nil]
    exact site.opened.eval_insert_of_full host.recorded result _ shape full
  | false =>
    have recorded := host.eval_extract_recorded call.positional mid record
    rcases read : (extract host call.positional).eval mid with ⟨cause | print, stop⟩
    · rw [read] at recorded
      cases (site.opened.eval_insert_of_unread result shape full read).symm.trans filed
      exact site.opened.eval_insert_of_unread result shape full recorded
    · rw [read] at recorded
      cases (site.opened.eval_insert_of_read result shape full read).symm.trans filed
      exact site.opened.eval_insert_of_read result shape full recorded

omit [DecidableEq Ty] in
theorem resolving_recorded {answer : Except Fail R}
    (resolved : resolving resolve call seen = (answer, mid)) :
    resolving (fun call => (resolve call).beside) call (seen.recall record) =
      (answer, mid.recall record) := by
  rw [resolving, Ambient.note_recall, Run.eval_beside]
  rw [resolving] at resolved
  rw [resolved]

end Recorded

namespace Moment

variable (moment : Moment World Arg Val Ty R Err Fail)

/-- The same dispatch, where the host keeps a record of the arguments that it decontainerizes. -/
def recorded (record : List Arg) : Moment (World × List Arg) Arg Val Ty R Err Fail where
  site := moment.site
  ambient := moment.ambient.recall record
  host := moment.host.recorded
  resolve call := (moment.resolve call).beside
  call := moment.call

/-- The state that a dispatch looks a call up in, unless it has no cache for that. -/
def lookStart? : Option (Ambient World Ty R) :=
  if moment.site.cache.isSome then some moment.ambient else none

/-- The state that a dispatch files a result in, unless it never does or finds no room. -/
def fileStart? : Option (Ambient World Ty R) :=
  match moment.looked.1, moment.resolved with
  | .ok none, (.ok _, mid) => if moment.site.opened.isFull moment.call.arity then none else some mid
  | _, _ => none

/-- The states that a dispatch starts from when it passes over its arguments. -/
def passStarts : List (Ambient World Ty R) :=
  moment.lookStart?.toList ++ moment.fileStart?.toList

/-- The passes of a dispatch over the arguments of its call, if it is these that decide. -/
def passes : List (List (Reading World Arg Val Ty R Err)) :=
  moment.passStarts.map (moment.host.readings moment.call.positional)

variable {moment} {seen mid after : Ambient World Ty R}

theorem fileStart?_of_unread {cause : Err} (looked : moment.looked = (.error cause, after)) :
    moment.fileStart? = none := by
  simp only [fileStart?, looked]

theorem fileStart?_of_hit {result : R} (looked : moment.looked = (.ok (some result), after)) :
    moment.fileStart? = none := by
  simp only [fileStart?, looked]

section Missed

variable (looked : moment.looked = (.ok none, seen))

include looked

theorem fileStart?_of_unresolved {cause : Fail}
    (resolved : resolving moment.resolve moment.call seen = (.error cause, after)) :
    moment.fileStart? = none := by
  simp only [fileStart?, looked, resolved_of_looking looked, resolved]

theorem fileStart?_of_resolved {result : R}
    (resolved : resolving moment.resolve moment.call seen = (.ok result, mid)) :
    moment.fileStart? =
      if moment.site.opened.isFull moment.call.arity then none else some mid := by
  simp only [fileStart?, looked, resolved_of_looking looked, resolved]

end Missed

variable (moment) in
theorem flatMap_fileStart (mid : Ambient World Ty R) :
    ((if moment.site.opened.isFull moment.call.arity then none else some mid).toList.flatMap
      fun start => Reading.openedIn (moment.host.readings moment.call.positional start)) =
      moment.site.opensToFile moment.host moment.call mid := by
  rw [opensToFile]
  split_ifs <;> simp

variable (moment) in
theorem flatMap_passes :
    moment.passes.flatMap Reading.openedIn =
      moment.site.opensToLook moment.host moment.call moment.ambient ++
        moment.fileStart?.toList.flatMap fun start =>
          Reading.openedIn (moment.host.readings moment.call.positional start) := by
  rw [passes, passStarts, List.flatMap_map, List.flatMap_append, lookStart?, opensToLook]
  by_cases present : moment.site.cache.isSome = true <;> simp [present]

/-- What a dispatch decontainerizes is what it comes upon in its passes. -/
theorem dispatched_recorded {arity : Nat} (shape : moment.call.shape maxArity = .positional arity)
    (record : List Arg) :
    (moment.recorded record).dispatched =
      (moment.dispatched.1,
        moment.dispatched.2.recall (record ++ moment.passes.flatMap Reading.openedIn)) := by
  have follows := moment.course
  generalize moment.dispatched = done at follows ⊢
  rw [flatMap_passes, ← List.append_assoc]
  cases follows with
  | unread looked =>
    rw [fileStart?_of_unread looked, Option.toList_none, List.flatMap_nil, List.append_nil]
    exact dispatch_of_unread (looking_recorded record _ shape looked)
  | hit looked =>
    rw [fileStart?_of_hit looked, Option.toList_none, List.flatMap_nil, List.append_nil]
    exact dispatch_of_hit (looking_recorded record _ shape looked)
  | unresolved looked resolved =>
    rw [fileStart?_of_unresolved looked resolved, Option.toList_none, List.flatMap_nil,
      List.append_nil]
    exact dispatch_of_unresolved (looking_recorded record _ shape looked)
      (resolving_recorded _ resolved)
  | unfiled looked resolved filed =>
    rw [fileStart?_of_resolved looked resolved, flatMap_fileStart]
    refine (dispatch_of_resolved (looking_recorded record _ shape looked)
      (resolving_recorded _ resolved)).trans ?_
    exact file_of_unfiled (filing_recorded _ _ shape filed)
  | filed looked resolved filed =>
    rw [fileStart?_of_resolved looked resolved, flatMap_fileStart]
    refine (dispatch_of_resolved (looking_recorded record _ shape looked)
      (resolving_recorded _ resolved)).trans ?_
    exact file_of_filed (filing_recorded _ _ shape filed)

section Fine

variable (moment)

/-- Every argument that is decontainerized can be, and the call can be resolved if that is asked
for. -/
structure Fine : Prop where
  reads : ∀ pass ∈ moment.passes, ∀ reading ∈ pass, ∀ cause stop, ¬ reading.Fails cause stop
  resolves : moment.looked.1 = .ok none → moment.resolved.1.isOk = true

/-- How often a dispatch passes over its arguments if nothing fails. -/
def passCount : Nat :=
  if moment.ending = .hit ∨ moment.site.cache.isNone = true ∨
      maxPerArity ≤ moment.site.opened.bucketLen moment.call.arity then 1
  else 2

theorem length_passes :
    moment.passes.length = moment.lookStart?.toList.length + moment.fileStart?.toList.length := by
  rw [passes, List.length_map, passStarts, List.length_append]

variable {moment} (fine : moment.Fine)

include fine

theorem Fine.exists_extract {start : Ambient World Ty R} (isStart : start ∈ moment.passStarts) :
    ∃ print stop, (extract moment.host moment.call.positional).eval start = (.ok print, stop) ∧
      (moment.host.readings moment.call.positional start).map Reading.arg =
        moment.call.positional :=
  moment.host.exists_eval_extract_of_fine _ _ (fine.reads _ (List.mem_map_of_mem isStart))

theorem Fine.map_arg {pass : List (Reading World Arg Val Ty R Err)}
    (isPass : pass ∈ moment.passes) :
    pass.map Reading.arg = moment.call.positional := by
  obtain ⟨start, isStart, rfl⟩ := List.mem_map.mp isPass
  obtain ⟨print, stop, -, whole⟩ := fine.exists_extract isStart
  exact whole

/-- A dispatch in which nothing fails has an answer, after one pass or two. -/
theorem Fine.answers (shape : moment.call.shape maxArity = .positional moment.call.arity) :
    moment.dispatched.1.answer.isOk = true ∧ moment.passes.length = moment.passCount := by
  have follows := moment.course
  generalize moment.dispatched = done at follows ⊢
  cases follows with
  | unread looked =>
    rcases callLookup_of_looking looked with ⟨-, never, -⟩ | ⟨cache, present, way⟩
    · cases never
    · have isStart : moment.ambient ∈ moment.passStarts := by simp [passStarts, lookStart?, present]
      obtain ⟨print, stop, read, -⟩ := fine.exists_extract isStart
      obtain ⟨seen, found⟩ := moment.site.exists_looking_of_read shape read
      cases found.symm.trans looked
  | hit looked =>
    rcases callLookup_of_looking looked with ⟨-, never, -⟩ | ⟨cache, present, way⟩
    · cases never
    · refine ⟨rfl, ?_⟩
      rw [length_passes, fileStart?_of_hit looked, lookStart?, passCount, ending_of_hit looked]
      simp [present]
  | unresolved looked resolved =>
    have resolves := fine.resolves (congrArg Prod.fst looked)
    rw [resolved_of_looking looked, resolved] at resolves
    cases resolves
  | @unfiled seen result mid cause after looked resolved filed =>
    have starts := fileStart?_of_resolved looked resolved
    cases full : moment.site.opened.isFull moment.call.arity with
    | true => cases (moment.site.opened.eval_insert_of_full _ _ _ shape full).symm.trans filed
    | false =>
      rw [full, if_neg Bool.false_ne_true] at starts
      have isStart : mid ∈ moment.passStarts := by simp [passStarts, starts]
      obtain ⟨print, stop, read, -⟩ := fine.exists_extract isStart
      cases (Cache.eval_insert_of_read _ shape full read).symm.trans filed
  | filed looked resolved filed =>
    refine ⟨rfl, ?_⟩
    have full : moment.site.opened.isFull moment.call.arity = true ↔
        maxPerArity ≤ moment.site.opened.bucketLen moment.call.arity := Cache.isFull_iff _ _
    rw [length_passes, fileStart?_of_resolved looked resolved, lookStart?, passCount,
      ending_of_filed looked resolved filed]
    cases present : moment.site.cache with
    | none => simp [opened, present]
    | some cache =>
      by_cases room : moment.site.opened.isFull moment.call.arity = true
      · simp [room, full.mp room]
      · simp [room, mt full.mpr room]

/-- Where it is known beforehand which arguments are decontainerized, each pass has just these. -/
theorem Fine.flatMap_passes_of_known {opened : Arg → Bool}
    (shape : moment.call.shape maxArity = .positional moment.call.arity)
    (known : ∀ arg ∈ moment.call.positional, ∀ state, moment.host.opens arg state = opened arg) :
    moment.passes.flatMap Reading.openedIn =
      (List.replicate moment.passCount (moment.call.positional.filter opened)).flatten := by
  have same : ∀ pass ∈ moment.passes,
      Reading.openedIn pass = moment.call.positional.filter opened := by
    intro pass isPass
    rw [← fine.map_arg isPass, List.filter_map, Reading.openedIn]
    congr 1
    apply List.filter_congr
    intro reading member
    obtain ⟨start, -, rfl⟩ := List.mem_map.mp isPass
    obtain ⟨arg, isArg, state, rfl⟩ := Host.exists_of_mem_readings start member
    exact known arg isArg state
  rw [List.flatMap_def, List.map_congr_left same, List.map_const', (fine.answers shape).2]

end Fine

end Moment

end CallSite

section Matters

/-- No user code runs where it cannot matter. A call that is decided by its shape puts no question
to any host, and neither does a result whose bucket is full. A dispatch of any other call in which
nothing fails passes over its arguments once if it hits, if it makes the cache of its site, or if it
misses and there is no room, and twice on any other miss. In each pass it decontainerizes those
that have a type and are no native strings, once each, and it does so nowhere else. -/
theorem asks_where_it_matters :
    (∀ (call : Capture Arg) (result : R) (start : Ambient World Ty R),
      Unasked Val Err call result start) ∧
    ∀ moment : CallSite.Moment World Arg Val Ty R Err Fail,
      moment.call.hasNamed = false → 0 < moment.call.arity → moment.call.arity ≤ maxArity →
      moment.Fine →
        moment.dispatched.1.answer.isOk = true ∧
        moment.passes.length = moment.passCount ∧
        (∀ pass ∈ moment.passes, pass.map Reading.arg = moment.call.positional) ∧
        (∀ record, (moment.recorded record).dispatched =
          (moment.dispatched.1,
            moment.dispatched.2.recall (record ++ moment.passes.flatMap Reading.openedIn))) ∧
        ∀ opened : Arg → Bool,
          (∀ arg ∈ moment.call.positional, ∀ state, moment.host.opens arg state = opened arg) →
          ∀ record, (moment.recorded record).dispatched =
            (moment.dispatched.1, moment.dispatched.2.recall (record ++
              (List.replicate moment.passCount
                (moment.call.positional.filter opened)).flatten)) := by
  refine ⟨fun call result start => unasked result start, ?_⟩
  intro moment nameless pos narrow fine
  have shape := Capture.shape_of_nameless nameless pos narrow
  obtain ⟨answered, counted⟩ := fine.answers shape
  refine ⟨answered, counted, fun pass isPass => fine.map_arg isPass,
    CallSite.Moment.dispatched_recorded shape, ?_⟩
  intro opened known record
  rw [CallSite.Moment.dispatched_recorded shape, fine.flatMap_passes_of_known shape known]

/-- Five arguments are not read, whatever they are. Of a string and a container, it is the container
that is decontainerized, once to look the call up and once to file what it was resolved to. -/
theorem declared_asks_where_it_matters :
    let host : Host Declared.World Declared.Arg Declared.Val Nat String _ := Declared.host []
    let wide : Capture Declared.Arg := ⟨List.replicate 5 { id := 9, own := some 0 }, []⟩
    let container : Declared.Arg := { id := 7, own := some 0, held := some 3 }
    let call : Capture Declared.Arg := ⟨[{ id := 1, isStr := true, own := some 0 }, container], []⟩
    let start : Ambient Declared.World Nat String := { world := [] }
    let moment : CallSite.Moment _ _ _ _ _ _ Empty :=
      ⟨⟨some (Cache.empty .skipDuplicates), .skipDuplicates⟩, start, host, fun _ => pure "resolved",
        call⟩
    (DispatchCache.find host moment.site.cache wide).eval start = (.ok none, start) ∧
      moment.dispatched.1.answer.isOk = true ∧ moment.passCount = 2 ∧
      (moment.recorded []).dispatched =
        (moment.dispatched.1, moment.dispatched.2.recall [container, container]) := by
  intro host wide container call start moment
  obtain ⟨unasked, dispatches⟩ := @asks_where_it_matters Declared.World Declared.Arg Declared.Val
    Nat String Declared.Unreadable Empty _
  have fine : moment.Fine := by
    refine ⟨fun pass isPass reading member cause stop fails => ?_, fun _ => rfl⟩
    obtain ⟨state, -, rfl⟩ := List.mem_map.mp isPass
    have readings : moment.host.readings moment.call.positional state =
        [⟨host, { id := 1, isStr := true, own := some 0 }, state⟩, ⟨host, container, state⟩] := rfl
    rw [readings] at member
    rcases List.mem_cons.mp member with rfl | last
    · cases fails.1
    · obtain rfl := List.mem_singleton.mp last
      cases congrArg Prod.fst fails.2
  obtain ⟨answered, -, -, -, recorded⟩ := dispatches moment rfl (by decide) (by decide) fine
  have known : ∀ arg ∈ call.positional, ∀ state,
      host.opens arg state = (!arg.isStr && arg.own.isSome) := fun _ _ _ => rfl
  exact ⟨(unasked wide "never" start).find (.inr (.inr (by decide))) _ host, answered, rfl,
    recorded _ known []⟩

end Matters

end DispatchCache
