import DispatchCache.Proofs.SharedCache.Uses

/-! # Uses of a shared cache are serial

Requests that nest, because reading arguments makes more of them, are answered as if they had
come one after the other. The order is that of their accesses, and a plain cache that gets
them in this order, each with what its arguments were read as, gives the same answers. -/

namespace DispatchCache

variable {World Arg Val Ty R Err : Type}

def CacheRequest.isCacheable (request : CacheRequest Arg R) : Bool :=
  (request.call.shape maxArity).isCacheable

variable [DecidableEq Ty]

/-- Whether a use is answered without an error. -/
def Use.returned (use : Use World Arg Val Ty R Err) : Bool := use.answer.isOk

/-- Whether a use is answered by an access to the cache. -/
def Use.accesses (use : Use World Arg Val Ty R Err) : Bool :=
  use.returned && use.request.isCacheable

/-- A fingerprint that a use may be replayed with. If no arguments were read it only has to be
of their number. -/
def Use.Fits (use : Use World Arg Val Ty R Err) (print : Fingerprint Ty) : Prop :=
  use.print? = some print ∨ use.print? = none ∧ print.arity = use.request.call.arity

/-- What was read, or else a fingerprint of unknown arguments. -/
def Use.stand (use : Use World Arg Val Ty R Err) : Fingerprint Ty :=
  use.print?.getD ⟨List.replicate use.request.call.arity .unset⟩

theorem Use.fits_stand (use : Use World Arg Val Ty R Err) : use.Fits use.stand := by
  unfold Fits stand
  cases use.print? with
  | none => exact .inr ⟨rfl, List.length_replicate⟩
  | some print => exact .inl rfl

namespace Cache

/-- Answers a request whose arguments read as `print`. -/
def replay (cache : Cache Ty R) (request : CacheRequest Arg R) (print : Fingerprint Ty) :
    CacheAnswer R × Cache Ty R :=
  match (request.call.shape maxArity).refusal? with
  | some reason => (request.refused reason, cache)
  | none => cache.access print request

/-- The requests of all uses, one after the other, are answered as the uses were, and the
cache becomes `stop`. -/
def Replays : Cache Ty R → List (Use World Arg Val Ty R Err × Fingerprint Ty) → Cache Ty R → Prop
  | cache, [], stop => cache = stop
  | cache, (use, print) :: rest, stop =>
    use.answer = .ok (cache.replay use.request print).1 ∧
      (cache.replay use.request print).2.Replays rest stop

theorem Replays.append {cache middle stop : Cache Ty R}
    {first rest : List (Use World Arg Val Ty R Err × Fingerprint Ty)}
    (before : cache.Replays first middle) (after : middle.Replays rest stop) :
    cache.Replays (first ++ rest) stop := by
  induction first generalizing cache with
  | nil =>
    obtain rfl := before
    exact after
  | cons pair first ih => exact ⟨before.1, ih before.2⟩

end Cache

theorem Capture.arity_le_of_accepted {call : Capture Arg}
    (accepted : (call.shape maxArity).refusal? = none) : call.arity ≤ maxArity := by
  rcases accepted_cases accepted with form | form
  · rw [arity, positional_of_zeroArity form]
    exact Nat.zero_le _
  · exact (arity_of_positional form).2.2

namespace Use

variable {use : Use World Arg Val Ty R Err} {cache cache' : Cache Ty R} {print : Fingerprint Ty}

theorem answer_of_refused {reason : DropReason}
    (shape : (use.request.call.shape maxArity).refusal? = some reason) :
    use.answer = .ok (use.request.refused reason) := by
  rw [answer, done, SharedCache.eval_serve_of_refused shape]

/-- A plain cache with the same contents gives the same answer and becomes the same. -/
theorem Effect.replays (effect : use.Effect cache cache') (returned : use.returned = true)
    (fits : use.Fits print) : cache.Replays [(use, print)] cache' := by
  unfold Cache.Replays Cache.replay
  cases effect with
  | refused shape answer =>
    rw [shape]
    exact ⟨answer, rfl⟩
  | @full call result request shape full answer unread =>
    rw [shape, request]
    rw [request] at shape
    have arity : print.arity = call.arity := by
      rcases fits with read | ⟨-, arity⟩
      · rw [unread] at read
        cases read
      · rw [arity, request]
        rfl
    -- No arguments were read, so all that is known of the fingerprint is its arity.
    rw [← arity] at full
    have le := arity ▸ Capture.arity_le_of_accepted shape
    have dropped := Cache.insertFingerprint_of_full full le result
    simp only [Cache.access, dropped]
    exact ⟨answer, rfl⟩
  | unread answer =>
    rw [Use.returned, answer] at returned
    cases returned
  | read shape read arity answer =>
    rcases fits with same | ⟨unread, -⟩
    · rw [read] at same
      cases same
      rw [shape]
      exact ⟨answer, rfl⟩
    · rw [read] at unread
      cases unread

/-- No other use changes the cache. -/
theorem Effect.eq_of_inert (effect : use.Effect cache cache')
    (inert : use.accesses = false) : cache' = cache := by
  cases effect with
  | refused shape answer => rfl
  | full request shape full answer unread => rfl
  | unread answer => rfl
  | read shape read arity answer =>
    have cacheable : use.request.isCacheable = true := (CallShape.isCacheable_iff _).mpr shape
    rw [accesses, returned, answer, cacheable] at inert
    cases inert

end Use

/-- Requests that are refused come out the same anywhere among the others. -/
theorem Cache.Replays.of_filter {cache stop : Cache Ty R}
    {serial : List (Use World Arg Val Ty R Err × Fingerprint Ty)}
    (accesses : cache.Replays (serial.filter fun pair => pair.1.request.isCacheable) stop) :
    cache.Replays serial stop := by
  induction serial generalizing cache with
  | nil => exact accesses
  | cons pair serial ih =>
    obtain ⟨use, print⟩ := pair
    cases cacheable : use.request.isCacheable with
    | true =>
      rw [List.filter_cons_of_pos (by simpa using cacheable)] at accesses
      exact ⟨accesses.1, ih accesses.2⟩
    | false =>
      rw [List.filter_cons_of_neg (by simp [cacheable])] at accesses
      rcases refused : (use.request.call.shape maxArity).refusal? with _ | reason
      · rw [CacheRequest.isCacheable, (CallShape.isCacheable_iff _).mpr refused] at cacheable
        cases cacheable
      · unfold Cache.Replays Cache.replay
        rw [refused]
        exact ⟨Use.answer_of_refused refused, ih accesses⟩

/-- Replaying all uses that accessed the cache so far, in order, makes a new cache this one. -/
def Replayed (policy : InsertPolicy) (past : List (Use World Arg Val Ty R Err))
    (cache : Cache Ty R) : Prop :=
  ∀ serial : List (Use World Arg Val Ty R Err × Fingerprint Ty),
    serial.map Prod.fst = past.filter Use.accesses → (∀ pair ∈ serial, pair.1.Fits pair.2) →
      (Cache.empty policy).Replays serial cache

theorem Replayed.concat {policy : InsertPolicy} {past : List (Use World Arg Val Ty R Err)}
    {use : Use World Arg Val Ty R Err} {cache cache' : Cache Ty R}
    (replayed : Replayed policy past cache) (effect : use.Effect cache cache') :
    Replayed policy (past ++ [use]) cache' := by
  intro serial uses fits
  rw [List.filter_append] at uses
  by_cases accesses : use.accesses = true
  · -- The new use comes last in the run, so it is also replayed last.
    rw [List.filter_cons_of_pos accesses, List.filter_nil] at uses
    obtain ⟨first, last, rfl, firsts, lasts⟩ := List.map_eq_append_iff.mp uses
    obtain ⟨⟨_, print⟩, rfl, rfl⟩ := List.map_eq_singleton_iff.mp lasts
    have before := replayed first firsts fun pair member =>
      fits pair (List.mem_append_left _ member)
    have fit := fits _ (List.mem_append_right _ List.mem_cons_self)
    exact before.append (effect.replays (Bool.and_eq_true_iff.mp accesses).1 fit)
  · rw [List.filter_cons_of_neg accesses, List.filter_nil, List.append_nil] at uses
    rw [effect.eq_of_inert (Bool.not_eq_true _ ▸ accesses)]
    exact replayed serial uses fits

/-- Calls on a shared cache are serial, those included that user code makes within calls. In
the order of their accesses, a plain cache gives each call that returned the answer it had.
Calls that are never cached may stand anywhere among the others. -/
theorem UserCode.replays_of_order {Out : Type} (runtime : Runtime World Arg Val Ty R Err)
    (tooDeep : Err) (depth : Nat) (code : UserCode World Arg R Err Out) {place : Nat}
    {policy : InsertPolicy} {start : Ambient World Ty R}
    (fresh : start.shared[place]? = some (SharedCache.empty policy))
    {serial : List (Use World Arg Val Ty R Err × Fingerprint Ty)}
    (order : (serial.map Prod.fst).filter (·.request.isCacheable) =
      (usesAt place (code.deeds (runtime.host tooDeep depth)
        (runtime.watch tooDeep depth).deeds start)).filter Use.accesses)
    (fits : ∀ pair ∈ serial, pair.1.request.isCacheable = true → pair.1.Fits pair.2) :
    (Cache.empty policy).Replays serial
      (((code.run (runtime.host tooDeep depth)).eval start).2.cacheAt place) := by
  have first : Replayed policy ([] : List (Use World Arg Val Ty R Err)) (Cache.empty policy) := by
    intro serial uses _
    obtain rfl := List.map_eq_nil_iff.mp uses
    rfl
  have replayed := code.holds_of_prefix runtime tooDeep depth fresh
    (fun _ _ _ _ effect replayed => replayed.concat effect) first List.prefix_rfl
  rw [(code.linked_deeds (runtime.watch tooDeep depth) start).reached_eq] at replayed
  apply Cache.Replays.of_filter
  apply replayed
  · rw [← order, List.filter_map]
    rfl
  · intro pair member
    obtain ⟨inside, cacheable⟩ := List.mem_filter.mp member
    exact fits pair inside cacheable

end DispatchCache

namespace DispatchCache.Reentrant

/-- The inner result is filed before the outer one, which then is a duplicate. -/
theorem session_replays :
    let served := (uses .skipDuplicates).filter Use.accesses
    served.map Use.answer = [.ok (.filed .stored), .ok (.filed .duplicate), .ok (.filed .stored),
      .ok (.found (some "inner"))] ∧
    (Cache.empty .skipDuplicates).Replays (served.map fun use => (use, use.stand))
      (((session.run (runtime.host "deep" 2)).eval (start .skipDuplicates)).2.cacheAt 0) := by
  intro served
  refine ⟨rfl, session.replays_of_order runtime "deep" 2 rfl rfl ?_⟩
  intro pair member _
  obtain ⟨use, -, rfl⟩ := List.mem_map.mp member
  exact use.fits_stand

end DispatchCache.Reentrant
