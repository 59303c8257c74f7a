import DispatchCache.Proofs.Cache.Given

/-! # Calls that are told apart

Two calls are told apart if what the one reads as never agrees with what the other reads as,
whenever each of them is read. One place with arguments of which this holds is enough. Filing a
result for one of two such calls does not show in any lookup of the other. -/

namespace DispatchCache

variable {World Arg Val Ty R Err : Type} [DecidableEq Ty]

/-- Whenever each of two arguments is classified, their keys do not agree. -/
def Host.ToldApart (host : Host World Arg Val Ty R Err) (arg other : Arg) : Prop :=
  ∀ ⦃start start' done done' : Ambient World Ty R⦄ ⦃key key' : TypeKey Ty⦄,
    (classify host arg).eval start = (.ok key, done) →
      (classify host other).eval start' = (.ok key', done') → key.agrees key' = false

/-- Whenever each of two calls is read, their fingerprints do not agree. -/
def Capture.ToldApart (host : Host World Arg Val Ty R Err) (call other : Capture Arg) : Prop :=
  ∀ ⦃start start' done done' : Ambient World Ty R⦄ ⦃print print' : Fingerprint Ty⦄,
    (extract host call.positional).eval start = (.ok print, done) →
      (extract host other.positional).eval start' = (.ok print', done') →
        print.agrees print' = false

variable {host : Host World Arg Val Ty R Err}

theorem Capture.ToldApart.symm {call other : Capture Arg} (apart : call.ToldApart host other) :
    other.ToldApart host call := by
  intro start start' done done' print print' read read'
  rw [Fingerprint.agrees_comm]
  exact apart read' read

theorem Fingerprint.agrees_of_agreeAll_append {before before' behind behind' : List (TypeKey Ty)}
    {key key' : TypeKey Ty} (len : before.length = before'.length)
    (agree : agreeAll (before ++ key :: behind) (before' ++ key' :: behind') = true) :
    key.agrees key' = true := by
  induction before generalizing before' with
  | nil =>
    obtain rfl := List.eq_nil_of_length_eq_zero len.symm
    simp only [List.nil_append, agreeAll, Bool.and_eq_true] at agree
    exact agree.1
  | cons head before ih =>
    cases before' with
    | nil => cases len
    | cons head' before' =>
      simp only [List.cons_append, agreeAll, Bool.and_eq_true] at agree
      exact ih (Nat.succ.inj len) agree.2

/-- Arguments that are told apart tell the calls apart in which they stand at one place. -/
theorem Host.ToldApart.at_place {arg other : Arg} (apart : host.ToldApart arg other)
    {left left' : List Arg} (len : left.length = left'.length) (right right' : List Arg)
    (named named' : List (String × Arg)) :
    Capture.ToldApart host ⟨left ++ arg :: right, named⟩ ⟨left' ++ other :: right', named'⟩ := by
  intro start start' done done' print print' read read'
  obtain ⟨keys, _, read_keys, built⟩ := Run.exists_of_eval_bind_ok read
  obtain ⟨keys', _, read_keys', built'⟩ := Run.exists_of_eval_bind_ok read'
  cases built
  cases built'
  obtain ⟨before, key, behind, _, _, rfl, before_len, classified⟩ :=
    exists_key_of_eval_extractKeys read_keys
  obtain ⟨before', key', behind', _, _, rfl, before_len', classified'⟩ :=
    exists_key_of_eval_extractKeys read_keys'
  have differ := apart classified classified'
  rw [Bool.eq_false_iff] at differ ⊢
  exact fun agree => differ (Fingerprint.agrees_of_agreeAll_append (by omega) agree)

namespace Cache

variable {cache filed : Cache Ty R} {call other : Capture Arg} {result : R}
variable {ambient after : Ambient World Ty R}

theorem lookup_congr (same : cache.zeroArity = filed.zeroArity)
    (alike : ∀ start done print, (extract host other.positional).eval start = (.ok print, done) →
      cache.get print = filed.get print) :
    ∀ later, (cache.lookup host other).eval later = (filed.lookup host other).eval later := by
  intro later
  rcases other.shape_cases with shape | shape | ⟨arity, shape⟩
  · rw [eval_lookup_of_uncacheable cache host _ shape,
      eval_lookup_of_uncacheable filed host _ shape]
  · rw [eval_lookup_of_zeroArity cache host _ shape, eval_lookup_of_zeroArity filed host _ shape,
      same]
  · rcases read : (extract host other.positional).eval later with ⟨cause | print, seen⟩
    · rw [eval_lookup_of_unread cache shape read, eval_lookup_of_unread filed shape read]
    · rw [eval_lookup_of_read cache shape read, eval_lookup_of_read filed shape read,
        alike later seen print read]

/-- A result that is filed for one of two calls does not show in a lookup of the other. -/
theorem lookup_insert_of_toldApart (apart : call.ToldApart host other) {arity : Nat}
    (shape : call.shape maxArity = .positional arity)
    {outcome : InsertOutcome}
    (done : (cache.insert host call result).eval ambient = (.ok (outcome, filed), after))
    (later : Ambient World Ty R) :
    (filed.lookup host other).eval later = (cache.lookup host other).eval later := by
  have way := cache.callInsert host call result ambient
  rw [done] at way
  cases way with
  | uncacheable refused => rfl
  | zeroArity zero =>
    rw [zero] at shape
    cases shape
  | full shape full => rfl
  | @read _ print _ _ _ room read inserted =>
    have narrow := arity_of_extract_positional shape read
    have positive := (Capture.arity_of_positional shape).2.1
    have slot := cache.zeroArity_insertFingerprint print result
    rw [inserted, if_neg (by omega)] at slot
    refine lookup_congr slot (fun start seen print' read' => ?_) later
    have differ := apart read read'
    have answer := cache.get_insertFingerprint print result print'
    rw [inserted, if_neg (fun both => by simp [differ] at both), Option.or_none] at answer
    exact answer

/-- An empty cache has no answer, whatever the arguments read as. -/
theorem answer_empty_of_shown {policy : InsertPolicy} {views : List (View Ty)}
    (shown : List.Forall₂ (host.ShownIn ambient.world) other.positional views) :
    (((empty policy : Cache Ty R).lookup host other).eval ambient).1 = .ok none := by
  rcases other.shape_cases with shape | shape | ⟨arity, shape⟩
  · rw [eval_lookup_of_uncacheable _ host _ shape]
  · rw [eval_lookup_of_zeroArity _ host _ shape, zeroArity_empty]
  · obtain ⟨after, read, -⟩ := Host.eval_extract_of_shown shown rfl
    rw [eval_lookup_of_read _ shape read, get_empty]

end Cache

section Handle

/-- On a handle, too, adding a result for one of two calls does not show to the other. Where
there was no cache, the one that is added to was empty. -/
theorem find_add_of_toldApart {handle : Option (Cache Ty R)} {call other : Capture Arg} {result : R}
    {added : Cache Ty R} {ambient after : Ambient World Ty R} (apart : call.ToldApart host other)
    {arity : Nat} (shape : call.shape maxArity = .positional arity)
    (done : (add host handle call result).eval ambient = (.ok added, after))
    (later : Ambient World Ty R) :
    (find host (some added) other).eval later =
      (find host (some (handle.getD (Cache.empty default))) other).eval later := by
  obtain ⟨outcome, inserted⟩ := exists_insert_of_add done
  exact Cache.lookup_insert_of_toldApart apart shape inserted later

/-- Two calls that no cache mixes up: their fingerprints never agree, and adding a result for
the one shows in no answer that is given to the other. -/
structure Capture.Unmixed (host : Host World Arg Val Ty R Err) (call other : Capture Arg) :
    Prop where
  apart : call.ToldApart host other
  adding : ∀ {handle : Option (Cache Ty R)} {result : R} {ambient after : Ambient World Ty R}
    {added : Cache Ty R}, (add host handle call result).eval ambient = (.ok added, after) →
      ∀ later, (find host (some added) other).eval later =
        (find host (some (handle.getD (Cache.empty default))) other).eval later

variable {ambient : Ambient World Ty R} {call other : Capture Arg}

theorem Capture.ToldApart.unmixed {arity : Nat} (apart : call.ToldApart host other)
    (shape : call.shape maxArity = .positional arity) : call.Unmixed host other :=
  ⟨apart, fun done => find_add_of_toldApart apart shape done⟩

/-- Arguments that show their views can be read, so a result for them can be added. -/
theorem eval_add_of_shown {views : List (View Ty)}
    (shown : List.Forall₂ (host.ShownIn ambient.world) call.positional views)
    (handle : Option (Cache Ty R)) (result : R) :
    ∃ added after, (add host handle call result).eval ambient = (.ok added, after) ∧
      after.world = ambient.world ∧ ambient.Grows after := by
  obtain ⟨seen, read, there, grown, -⟩ := Host.eval_extract_of_shown shown rfl
  let cache := handle.getD (Cache.empty default)
  have way := cache.callInsert host call result ambient
  rcases inserted : (cache.insert host call result).eval ambient with ⟨answer, after⟩
  rw [inserted] at way
  cases way with
  | uncacheable shape => exact ⟨_, _, eval_add_of_insert inserted, rfl, List.prefix_rfl⟩
  | zeroArity shape => exact ⟨_, _, eval_add_of_insert inserted, rfl, List.prefix_rfl⟩
  | full shape full => exact ⟨_, _, eval_add_of_insert inserted, rfl, List.prefix_rfl⟩
  | unread shape room failed => cases failed.symm.trans read
  | read shape room again filed =>
    cases again.symm.trans read
    exact ⟨_, _, eval_add_of_insert inserted, there, grown⟩

/-- Of two calls that are told apart and whose arguments show their views, the one is answered
after a result was added for the other as it was before. -/
theorem find_after_add_of_toldApart {views views' : List (View Ty)}
    (apart : call.ToldApart host other) {arity : Nat}
    (shape : call.shape maxArity = .positional arity)
    (shown : List.Forall₂ (host.ShownIn ambient.world) call.positional views)
    (shown' : List.Forall₂ (host.ShownIn ambient.world) other.positional views')
    {handle : Option (Cache Ty R)} (given : ∀ cache ∈ handle, cache.GivenIn ambient.slots)
    (result : R) :
    ∃ added after, (add host handle call result).eval ambient = (.ok added, after) ∧
      ((find host (some added) other).eval after).1 =
        ((find host handle other).eval ambient).1 := by
  obtain ⟨added, after, done, same, grown⟩ := eval_add_of_shown shown handle result
  refine ⟨added, after, done, ?_⟩
  rw [find_add_of_toldApart apart shape done]
  cases handle with
  | none => exact Cache.answer_empty_of_shown (same ▸ shown')
  | some cache => exact Cache.lookup_of_given (given cache rfl) shown' same grown

end Handle

end DispatchCache
