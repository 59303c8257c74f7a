import DispatchCache.Proofs.Cache.ByFingerprint
import DispatchCache.Proofs.Cache.Crowding
import DispatchCache.Proofs.Cache.Handles
import DispatchCache.Proofs.CallSite.Conservation
import DispatchCache.Proofs.CallSite.Policy

/-! # A shape is resolved once and for all

A cache never takes an answer back: an entry stays the first that agrees, and the slot is written
only by a dispatch that found it empty. So what a site answers for a shape is what it began with, or
else what the first dispatch of the run stored that stored anything for it. Once there is an answer
no resolver is asked for the shape, and until then each of its dispatches asks one. -/

namespace DispatchCache

variable {World Arg Val Ty R Err Fail : Type} [DecidableEq Ty]

namespace CallSite

namespace Moment

variable (moment : Moment World Arg Val Ty R Err Fail)

/-- The dispatch misses, and its result is stored under a fingerprint or in the slot. -/
structure Stores (print : Fingerprint Ty) (result : R) : Prop where
  ending : moment.ending = .filed .stored ∨ moment.ending = .filed .zeroArity
  filedAs : moment.filedAs = .ok print
  resolved : moment.resolved.1 = .ok result

/-- What the dispatch stores for a fingerprint, if it stores anything for it. -/
def gain (other : Fingerprint Ty) : Option R :=
  match moment.ending, moment.filedAs, moment.resolved.1 with
  | .filed .stored, .ok print, .ok result | .filed .zeroArity, .ok print, .ok result =>
    if print.agrees other then some result else none
  | _, _, _ => none

variable {moment} {other : Fingerprint Ty} {result : R}

theorem Stores.gain_eq {print : Fingerprint Ty} (stores : moment.Stores print result)
    (other : Fingerprint Ty) :
    moment.gain other = if print.agrees other = true then some result else none := by
  rcases stores.ending with ending | ending
  · rw [gain, ending, stores.filedAs, stores.resolved]
  · rw [gain, ending, stores.filedAs, stores.resolved]

theorem exists_stores_of_gain (gained : moment.gain other = some result) :
    ∃ print, moment.Stores print result ∧ print.agrees other = true := by
  unfold gain at gained
  split at gained
  · split_ifs at gained with agrees
    cases gained
    exact ⟨_, ⟨.inl ‹_›, ‹_›, ‹_›⟩, agrees⟩
  · split_ifs at gained with agrees
    cases gained
    exact ⟨_, ⟨.inr ‹_›, ‹_›, ‹_›⟩, agrees⟩
  · cases gained

theorem gain_of_ending {ending : Ending} (ends : moment.ending = ending)
    (stored : ending ≠ .filed .stored) (slot : ending ≠ .filed .zeroArity)
    (other : Fingerprint Ty) : moment.gain other = none := by
  rw [← Option.not_isSome_iff_eq_none, Option.isSome_iff_exists]
  rintro ⟨result, gained⟩
  obtain ⟨print, stores, -⟩ := exists_stores_of_gain gained
  rcases stores.ending with ends' | ends'
  · exact stored (ends.symm.trans ends')
  · exact slot (ends.symm.trans ends')

variable (moment)

/-- A dispatch keeps the answers of its site, and gives what it stores where there was none. -/
theorem answer_dispatched (other : Fingerprint Ty) :
    moment.dispatched.1.site.opened.answer other =
      (moment.site.opened.answer other).or (moment.gain other) := by
  have follows := moment.course
  generalize moment.dispatched = done at follows ⊢
  cases follows with
  | unread looked => rw [gain_of_ending (ending_of_unread looked) nofun nofun, Option.or_none]
  | hit looked => rw [gain_of_ending (ending_of_hit looked) nofun nofun, Option.or_none]
  | unresolved looked resolved =>
    rw [gain_of_ending (ending_of_unresolved looked resolved) nofun nofun, Option.or_none]
  | unfiled looked resolved filed =>
    rw [gain_of_ending (ending_of_unfiled looked resolved filed) nofun nofun, Option.or_none]
    rfl
  | @filed seen result mid outcome cache after looked resolved filed =>
    show cache.answer other = _
    have ends := ending_of_filed looked resolved filed
    have resolved_eq : moment.resolved = (.ok result, mid) :=
      (resolved_of_looking looked).trans resolved
    cases callInsert_of_filing filed with
    | uncacheable shape => rw [gain_of_ending ends nofun nofun, Option.or_none]
    | full shape full => rw [gain_of_ending ends nofun nofun, Option.or_none]
    | zeroArity shape =>
      have filedAs : moment.filedAs = .ok ⟨[]⟩ := by
        rw [Moment.filedAs, Capture.positional_of_zeroArity shape, eval_extract_nil]
      have stores : moment.Stores ⟨[]⟩ result := ⟨.inr ends, filedAs, by rw [resolved_eq]⟩
      have vacant := vacant_of_looked looked shape
      have law := moment.site.opened.answer_insertFingerprint_of_vacant
        (fun _ : (⟨[]⟩ : Fingerprint Ty).arity = 0 => vacant) result other
      have slot : moment.site.opened.insertFingerprint ⟨[]⟩ result =
          (.zeroArity, moment.site.opened.setZeroArity result) := rfl
      rw [slot] at law
      simpa [stores.gain_eq] using law
    | @read arity print _ _ shape room read inserted =>
      have keys : print.arity ≠ 0 := by
        rw [arity_of_extract_positional shape read]
        exact Nat.ne_of_gt (Capture.arity_of_positional shape).2.1
      have law := moment.site.opened.answer_insertFingerprint_of_vacant
        (fun zero => absurd zero keys) result other
      rw [inserted] at law
      by_cases kept : outcome = .stored ∨ outcome = .zeroArity
      · have filedAs : moment.filedAs = .ok print := by rw [Moment.filedAs, resolved_eq, read]
        have stores : moment.Stores print result :=
          ⟨kept.imp (ends.trans <| congrArg _ ·) (ends.trans <| congrArg _ ·), filedAs,
            by rw [resolved_eq]⟩
        simpa [stores.gain_eq, kept] using law
      · have gained : moment.gain other = none :=
          gain_of_ending ends (fun same => kept (.inl (by simpa using same)))
            (fun same => kept (.inr (by simpa using same))) other
        simpa [gained, kept] using law

variable {moment}

/-- A dispatch that stores answers its result. If it reads its arguments alike whenever it reads
them, there was no answer for what it stores under. -/
theorem Stores.answer_eq {print : Fingerprint Ty} (stores : moment.Stores print result) :
    moment.dispatched.1.answer = .ok result ∧
      (moment.Steady → moment.site.opened.answer print = none) := by
  have ends := stores.ending
  have follows := moment.course
  generalize moment.dispatched = done at follows ⊢
  cases follows with
  | unread looked => simp [ending_of_unread looked] at ends
  | hit looked => simp [ending_of_hit looked] at ends
  | unresolved looked resolved => simp [ending_of_unresolved looked resolved] at ends
  | unfiled looked resolved filed => simp [ending_of_unfiled looked resolved filed] at ends
  | @filed seen answer mid outcome cache after looked resolved filed =>
    have resolved_eq : moment.resolved = (.ok answer, mid) :=
      (resolved_of_looking looked).trans resolved
    have same := stores.resolved
    have filedAs := stores.filedAs
    rw [ending_of_filed looked resolved filed] at ends
    rw [resolved_eq] at same
    rw [Moment.filedAs, resolved_eq] at filedAs
    obtain rfl := Except.ok.inj same
    refine ⟨rfl, fun steady => ?_⟩
    cases callInsert_of_filing filed with
    | uncacheable shape => simp at ends
    | full shape full => simp at ends
    | zeroArity shape =>
      rw [Capture.positional_of_zeroArity shape, eval_extract_nil] at filedAs
      cases filedAs
      exact vacant_of_looked looked shape
    | @read arity print' _ _ shape room read inserted =>
      rw [read] at filedAs
      cases filedAs
      have keys : print.arity ≠ 0 := by
        rw [arity_of_extract_positional shape read]
        exact Nat.ne_of_gt (Capture.arity_of_positional shape).2.1
      rw [Cache.answer, if_neg keys]
      exact freshFor_of_steady steady looked resolved arity print after shape room read

/-- What a nameless call is looked up as decides what is found, with or without a cache. -/
theorem fst_looked_of_read {found : Fingerprint Ty} (nameless : moment.call.hasNamed = false)
    (read : moment.lookedUpAs = .ok found) :
    moment.looked.1 = .ok (moment.site.opened.answer found) := by
  rcases extracted : (extract moment.host moment.call.positional).eval moment.ambient with
    ⟨cause | print, stop⟩
  · rw [lookedUpAs, extracted] at read
    cases read
  · rw [lookedUpAs, extracted] at read
    cases read
    rcases cached : moment.site.cache with _ | cache
    · rw [looked, looking, cached, opened, cached, Option.getD_none, Cache.answer_empty]
      rfl
    · rw [looked, looking, cached, opened_of_present cached, Cache.answer,
        arity_of_extract extracted]
      split_ifs with zero
      · exact congrArg Prod.fst (cache.eval_lookup_of_zeroArity moment.host moment.ambient
          (Capture.shape_of_arity_zero nameless zero))
      · exact cache.fst_eval_lookup_of_read nameless (Nat.pos_of_ne_zero zero) extracted

/-- Nothing is found for calls with named arguments or too many. -/
theorem fst_looked_of_refused
    (refused : moment.call.hasNamed = true ∨ maxArity < moment.call.arity) :
    moment.looked.1 = .ok none := by
  have shape : (moment.call.shape maxArity).isCacheable = false := by
    rw [← Bool.not_eq_true, Capture.isCacheable_shape_iff]
    rintro ⟨nameless, narrow⟩
    rcases refused with named | wide
    · rw [nameless] at named
      cases named
    · exact Nat.not_le.mpr wide narrow
  exact congrArg Prod.fst (looking_of_uncacheable moment.site moment.host moment.ambient shape)

/-- A lookup that succeeds without reading the arguments finds nothing. -/
theorem fst_looked_of_unread {cause : Err} (read : moment.lookedUpAs = .error cause)
    (succeeds : moment.looked.1.isOk = true) : moment.looked.1 = .ok none := by
  rcases looked : moment.looked with ⟨answer, after⟩
  rw [looked] at succeeds
  rcases callLookup_of_looking looked with ⟨-, rfl, -⟩ | ⟨cache, -, way⟩
  · rfl
  · cases way with
    | uncacheable shape => rfl
    | zeroArity shape slot =>
      rw [lookedUpAs, Capture.positional_of_zeroArity shape, eval_extract_nil] at read
      cases read
    | unread shape read => cases succeeds
    | read shape read' got =>
      rw [lookedUpAs, read'] at read
      cases read

end Moment

/-- At any moment of a run, what a site answers is what it did at the start, or else what was
stored first. -/
theorem answer_of_history {requests : List (Request World Arg Val Ty R Err Fail)}
    {site : CallSite Ty R} {ambient : Ambient World Ty R}
    {earlier later : List (Moment World Arg Val Ty R Err Fail)}
    {moment : Moment World Arg Val Ty R Err Fail}
    (run : history requests site ambient = earlier ++ moment :: later) (other : Fingerprint Ty) :
    moment.site.opened.answer other =
      (site.opened.answer other).or (earlier.findSome? (·.gain other)) := by
  induction requests generalizing site ambient earlier with
  | nil => cases earlier <;> cases run
  | cons request requests ih =>
    rw [history] at run
    cases earlier with
    | nil =>
      obtain ⟨rfl, -⟩ := List.cons.inj run
      rw [List.findSome?_nil, Option.or_none]
    | cons first earlier =>
      obtain ⟨rfl, rest⟩ := List.cons.inj run
      rw [ih rest, Moment.answer_dispatched, Option.or_assoc, List.findSome?_cons]
      cases Moment.gain _ other with
      | none => rw [Option.none_or]
      | some result => rw [Option.some_or]

/-- For what a site had no answer for and nothing was stored for, it has no answer. -/
theorem answer_of_unstored {requests : List (Request World Arg Val Ty R Err Fail)}
    {site : CallSite Ty R} {ambient : Ambient World Ty R}
    {earlier later : List (Moment World Arg Val Ty R Err Fail)}
    {moment : Moment World Arg Val Ty R Err Fail} {other : Fingerprint Ty}
    (run : history requests site ambient = earlier ++ moment :: later)
    (vacant : site.opened.answer other = none)
    (unstored : ∀ storing ∈ earlier, ∀ print result, storing.Stores print result →
      print.agrees other = false) :
    moment.site.opened.answer other = none := by
  rw [answer_of_history run, vacant, Option.none_or, List.findSome?_eq_none_iff]
  intro storing member
  rw [← Option.not_isSome_iff_eq_none, Option.isSome_iff_exists]
  rintro ⟨result, gained⟩
  obtain ⟨print, stores, agrees⟩ := Moment.exists_stores_of_gain gained
  rw [unstored storing member print result stores] at agrees
  cases agrees

/-- Nothing is known about a call after earlier dispatches of a site: it has named arguments or too
many, or its lookup succeeds, but under a fingerprint with an unset key or under one that the site
had no answer for and nothing was stored for. -/
def Moment.Unknown (site : CallSite Ty R) (earlier : List (Moment World Arg Val Ty R Err Fail))
    (moment : Moment World Arg Val Ty R Err Fail) : Prop :=
  moment.call.hasNamed = true ∨ maxArity < moment.call.arity ∨
    moment.looked.1.isOk = true ∧ ∀ found, moment.lookedUpAs = .ok found →
      found.isCacheable = false ∨
        site.opened.answer found = none ∧
          ∀ storing ∈ earlier, ∀ print result, storing.Stores print result →
            print.agrees found = false

/-- Which dispatches of a run ask their resolvers. -/
structure ResolvesOnce (requests : List (Request World Arg Val Ty R Err Fail))
    (site : CallSite Ty R) (ambient : Ambient World Ty R) : Prop where
  stored : ∀ earlier storing later print result,
    history requests site ambient = earlier ++ storing :: later →
    storing.Steady → storing.Stores print result →
      storing.dispatched.1.answer = .ok result
  /-- The resolver makes no difference any more. -/
  later : ∀ earlier storing later print result,
    history requests site ambient = earlier ++ storing :: later →
    storing.Steady → storing.Stores print result →
      ∀ moment ∈ later, ∀ found, moment.call.hasNamed = false → moment.lookedUpAs = .ok found →
        print.agrees found = true →
        ∀ resolve, ({ moment with resolve } : Moment World Arg Val Ty R Err Fail).dispatched =
          (⟨.ok result, moment.site, .hit⟩, moment.looked.2)
  unknown : ∀ earlier moment later, history requests site ambient = earlier ++ moment :: later →
    moment.Unknown site earlier →
      moment.ending.asks = true ∧
        ∀ figure, Counts figure moment.host moment.resolve moment.call →
          figure moment.dispatched.2.world = figure moment.ambient.world + 1

/-- Once a dispatch has stored a result, whatever is dispatched after it, a nameless call of the
same shape is answered that result, and its resolver makes no difference. A call that has named
arguments or too many, or that is looked up under a fingerprint with an unset key or under one that
the site had no answer for and nothing was stored for, asks its resolver, and does so once. -/
theorem resolved_once_for_all (requests : List (Request World Arg Val Ty R Err Fail))
    (site : CallSite Ty R) (ambient : Ambient World Ty R) :
    ResolvesOnce requests site ambient := by
  constructor
  case stored =>
    exact fun earlier storing later print result run steady stores => stores.answer_eq.1
  case later =>
    intro earlier storing later print result run steady stores moment member found nameless read
      agrees resolve
    obtain ⟨between, rest, rfl⟩ := List.append_of_mem member
    have vacant := stores.answer_eq.2 steady
    rw [answer_of_history run] at vacant
    have known : moment.site.opened.answer found = some result := by
      have split : history requests site ambient =
          (earlier ++ storing :: between) ++ moment :: rest := by
        rw [run, List.append_assoc, List.cons_append]
      rw [← Cache.answer_congr _ agrees, answer_of_history split, List.findSome?_append,
        ← Option.or_assoc, vacant, Option.none_or, List.findSome?_cons, stores.gain_eq,
        if_pos ((Fingerprint.agrees_self_iff print).mpr (Fingerprint.isCacheable_of_agrees agrees))]
    have looked := Moment.fst_looked_of_read nameless read
    rw [known] at looked
    exact dispatch_of_hit (Prod.ext looked rfl)
  case unknown =>
    intro earlier moment later run unknown
    have missed : moment.looked.1 = .ok none := by
      by_cases refused : moment.call.hasNamed = true ∨ maxArity < moment.call.arity
      · exact Moment.fst_looked_of_refused refused
      · obtain ⟨named, wide⟩ := not_or.mp refused
        obtain ⟨succeeds, unknown⟩ := (unknown.resolve_left named).resolve_left wide
        rcases read : moment.lookedUpAs with cause | found
        · exact Moment.fst_looked_of_unread read succeeds
        · rw [Moment.fst_looked_of_read (Bool.not_eq_true _ ▸ named) read]
          rcases unknown found read with unset | ⟨vacant, unstored⟩
          · rw [Cache.answer_of_unset _ unset]
          · rw [answer_of_unstored run vacant unstored]
    have asked := Moment.asks_iff.mpr missed
    refine ⟨asked, fun figure counts => ?_⟩
    rw [moment.figure_dispatched counts, moment.ending.misses_tally_eq_asks, if_pos asked]

/-- A resolver that succeeds only the first time. After its result is stored, one argument cannot
be read and one call has a named argument, which asks the resolver in vain. Then the stored result
is found. -/
theorem declared_resolved_once :
    let host : Host Declared.World Declared.Arg Declared.Val Nat String _ := Declared.host []
    let resolve : Resolver Declared.World Declared.Arg Nat String Unit := fun _ => do
      let world ← Run.world
      modify fun ambient => { ambient with world := 0 :: world }
      if world.count 0 = 0 then return "first" else throw ()
    let object : Capture Declared.Arg := ⟨[{ id := 1, own := some 0, held := some 3 }], []⟩
    let unreadable : Capture Declared.Arg := ⟨[{ id := 2, own := some 0 }], []⟩
    let named : Capture Declared.Arg := ⟨[], [("flag", { id := 3 })]⟩
    let next (before : Moment Declared.World Declared.Arg Declared.Val Nat String
        Declared.Unreadable Unit) (call : Capture Declared.Arg) :=
      { before with site := before.dispatched.1.site, ambient := before.dispatched.2, call }
    let storing := ⟨new .allowDuplicates, { world := [] }, host, resolve, object⟩
    let failing := next storing unreadable
    let asking := next failing named
    let finding := next asking object
    storing.dispatched.1.answer = .ok "first" ∧ failing.ending = .unread ∧
      (asking.ending = .unresolved ∧
        asking.dispatched.2.world.count 0 = asking.ambient.world.count 0 + 1) ∧
      finding.dispatched = (⟨.ok "first", finding.site, .hit⟩, finding.looked.2) := by
  intro host resolve object unreadable named next storing failing asking finding
  let requests : List (Request Declared.World Declared.Arg Declared.Val Nat String
      Declared.Unreadable Unit) :=
    [object, unreadable, named, object].map fun call => ⟨host, resolve, call, id⟩
  have run : history requests (new .allowDuplicates) { world := [] } =
      [storing, failing, asking, finding] := rfl
  have reads : ∀ ambient : Ambient Declared.World Nat String,
      ((extract host object.positional).eval ambient).1 = .ok ⟨[.object 3]⟩ := fun _ => rfl
  have steady : storing.Steady := Moment.steady_of_constant reads
  have stores : storing.Stores ⟨[.object 3]⟩ "first" := ⟨.inl (by decide), rfl, rfl⟩
  have counts : Counts (fun world => world.count 0) host resolve named := by
    constructor
    case reading => exact nofun
    case resolving =>
      intro ambient
      change ((if ambient.world.count 0 = 0 then pure "first" else throw () :
        Run Declared.World Nat String Unit String).eval
          { ambient with world := 0 :: ambient.world }).2.world.count 0 = _
      split_ifs <;> exact List.count_cons_self
  have once := resolved_once_for_all requests (new .allowDuplicates) { world := [] }
  have later := once.later [] storing [failing, asking, finding] _ _ run steady stores
  obtain ⟨-, asked⟩ := once.unknown [storing, failing] asking [finding] run (.inl rfl)
  exact ⟨once.stored [] storing _ _ _ run steady stores, by decide, ⟨by decide, asked _ counts⟩,
    later finding (by simp) _ rfl rfl rfl resolve⟩

end CallSite

end DispatchCache
