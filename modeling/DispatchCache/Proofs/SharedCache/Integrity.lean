import DispatchCache.Proofs.Cache.Contents
import DispatchCache.Proofs.SharedCache.Uses

/-! # Nothing is lost under re-entrance

An add looks for room, runs user code that may file results in the same bucket, and files its
own result after that. What it saw may be out of date by then, but it decides anew by what it
finds. So at every moment of a run the entries of a shared cache are those that were stored
so far, each once, in the order in which they were stored. -/

namespace DispatchCache

variable {World Arg Val Ty R Err : Type} [DecidableEq Ty]

namespace Use

variable (use : Use World Arg Val Ty R Err)

/-- The outcome of a use that files a result, unless it fails. -/
def outcome? : Option InsertOutcome :=
  match use.answer with
  | .ok (.filed outcome) => some outcome
  | _ => none

/-- The entry that a use contributes. -/
def added? : Option (Entry Ty R) :=
  match use.request, use.print? with
  | .add _ result, some print => if use.outcome? = some .stored then some ⟨print, result⟩ else none
  | _, _ => none

/-- What a use changes is told by its outcome and its entry. -/
structure Contributes (cache cache' : Cache Ty R) : Prop where
  policy_eq : cache'.policy = cache.policy
  bucket : ∀ arity, cache'.bucket arity = cache.bucket arity ++ callsOf use.added?.toList arity
  slot : cache'.zeroArity.isSome = (cache.zeroArity.isSome || use.outcome? = some .zeroArity)
  len : cache'.len = cache.len + (if use.outcome? = some .stored then 1 else 0) +
    (if use.outcome? = some .zeroArity ∧ cache.zeroArity = none then 1 else 0)
  kept : use.outcome? ≠ some .stored → use.outcome? ≠ some .zeroArity → cache' = cache
  /-- An entry finds room, and under the policy that skips duplicates no other like it. -/
  sound : ∀ entry, use.added? = some entry →
    (cache.bucket entry.fingerprint.arity).length < maxPerArity ∧
      (cache.policy = .skipDuplicates → ∀ held ∈ cache.bucket entry.fingerprint.arity,
        held.fingerprint.agrees entry.fingerprint = false)

variable {use} {cache cache' : Cache Ty R}

theorem added?_eq_none (other : use.outcome? ≠ some .stored) : use.added? = none := by
  unfold added?
  split
  · exact if_neg other
  · rfl

theorem contributes_self
    (unfiled : use.outcome? ≠ some .stored ∧ use.outcome? ≠ some .zeroArity) :
    use.Contributes cache cache := by
  have none := added?_eq_none unfiled.1
  constructor
  case policy_eq => rfl
  case bucket =>
    intro arity
    simp [none, callsOf]
  case slot => simp [unfiled.2]
  case len => simp [unfiled]
  case kept => exact fun _ _ => rfl
  case sound =>
    intro entry added
    rw [none] at added
    cases added

/-- Filing a result contributes what the outcome says. -/
theorem contributes_insertFingerprint {print : Fingerprint Ty} {result : R}
    (outcome : use.outcome? = some (cache.insertFingerprint print result).1)
    (isAdded : use.added? =
      if use.outcome? = some .stored then some ⟨print, result⟩ else none) :
    use.Contributes cache (cache.insertFingerprint print result).2 := by
  have truthful := cache.truthful_insertFingerprint print result
  constructor
  case policy_eq => exact cache.policy_insertFingerprint print result
  case bucket =>
    intro arity
    rw [cache.bucket_insertFingerprint, isAdded, outcome]
    by_cases stored : (cache.insertFingerprint print result).1 = .stored
    · by_cases same : print.arity = arity
      · simp [stored, same, callsOf]
      · simp [stored, same, Ne.symm same, callsOf]
    · simp [stored, callsOf]
  case slot =>
    rw [cache.zeroArity_insertFingerprint, outcome]
    by_cases zero : print.arity = 0
    · simp [zero, truthful.zeroArity.mpr zero]
    · simp [zero, truthful.zeroArity]
  case len =>
    rw [cache.len_insertFingerprint, outcome]
    simp only [Option.some.injEq]
  case kept =>
    intro unstored unset
    rw [outcome] at unstored unset
    have way := cache.insertion print result
    generalize cache.insertFingerprint print result = filed at way unstored unset ⊢
    cases way with
    | zeroArity zero => exact absurd rfl unset
    | stored pos le room fresh => exact absurd rfl unstored
    | _ => rfl
  case sound =>
    intro entry given
    rw [isAdded, Option.ite_none_right_eq_some, outcome, Option.some.injEq,
      truthful.stored] at given
    obtain ⟨⟨-, room, fresh⟩, given⟩ := given
    obtain rfl := Option.some.inj given
    refine ⟨room, fun skip held member => ?_⟩
    rw [← Bool.not_eq_true]
    intro agrees
    exact fresh ⟨skip, held, member, agrees⟩

theorem Effect.contributes (effect : use.Effect cache cache') : use.Contributes cache cache' := by
  cases effect with
  | refused shape answer =>
    cases request : use.request with
    | find call =>
      rw [request] at answer
      exact contributes_self (by simp [outcome?, answer, CacheRequest.refused])
    | add call result =>
      rw [request] at answer
      exact contributes_self (by simp [outcome?, answer, CacheRequest.refused])
  | full request shape full answer unread =>
    exact contributes_self (by simp [outcome?, answer])
  | unread answer => exact contributes_self (by simp [outcome?, answer])
  | @read print shape read arity answer =>
    cases request : use.request with
    | find call =>
      rw [request] at answer
      exact contributes_self (by simp [outcome?, answer, Cache.access])
    | add call result =>
      rw [request] at answer
      apply contributes_insertFingerprint
      · rw [outcome?, answer]
        rfl
      · simp only [added?, request, read]

/-- A bucket stays as it is or gets the one entry. -/
theorem Contributes.bucket_cases (contributes : use.Contributes cache cache') (arity : Nat) :
    cache'.bucket arity = cache.bucket arity ∨
      ∃ entry, use.added? = some entry ∧ entry.fingerprint.arity = arity ∧
        cache'.bucket arity = cache.bucket arity ++ [entry] := by
  rw [contributes.bucket]
  cases use.added? with
  | none => simp [callsOf]
  | some entry =>
    by_cases here : entry.fingerprint.arity = arity
    · exact .inr ⟨entry, rfl, here, by simp [callsOf, here]⟩
    · simp [callsOf, here]

end Use

/-- The entries that uses have contributed, oldest first. -/
def storedBy (uses : List (Use World Arg Val Ty R Err)) : List (Entry Ty R) :=
  uses.filterMap Use.added?

/-- A cache that holds what the uses of it so far account for, and nothing else. -/
structure Accounted (policy : InsertPolicy) (uses : List (Use World Arg Val Ty R Err))
    (cache : Cache Ty R) : Prop where
  policy_eq : cache.policy = policy
  bucket : ∀ arity, cache.bucket arity = callsOf (storedBy uses) arity
  room : ∀ arity, (cache.bucket arity).length ≤ maxPerArity
  /-- Under the policy that skips duplicates no two entries of a bucket agree. -/
  unrepeated : policy = .skipDuplicates → ∀ arity, (cache.bucket arity).Pairwise
    fun earlier later => earlier.fingerprint.agrees later.fingerprint = false
  slot : cache.zeroArity.isSome = uses.any fun use => use.outcome? = some .zeroArity
  len : cache.len = (uses.countP fun use => use.outcome? = some .stored) +
    if (uses.any fun use => use.outcome? = some .zeroArity) then 1 else 0

namespace Accounted

variable {policy : InsertPolicy} {past : List (Use World Arg Val Ty R Err)}
variable {use : Use World Arg Val Ty R Err} {cache cache' : Cache Ty R}

theorem empty (policy : InsertPolicy) :
    Accounted policy ([] : List (Use World Arg Val Ty R Err))
      (Cache.empty policy : Cache Ty R) where
  policy_eq := rfl
  bucket arity := by simp [callsOf, storedBy]
  room arity := by simp
  unrepeated skip arity := by simp
  slot := rfl
  len := rfl

theorem concat (accounted : Accounted policy past cache)
    (contributes : use.Contributes cache cache') : Accounted policy (past ++ [use]) cache' := by
  constructor
  case policy_eq => rw [contributes.policy_eq, accounted.policy_eq]
  case bucket =>
    intro arity
    have stored : storedBy (past ++ [use]) = storedBy past ++ use.added?.toList := by
      rw [storedBy, List.filterMap_append]
      cases isAdded : use.added? <;> simp [storedBy, isAdded]
    rw [contributes.bucket, accounted.bucket, stored, callsOf, callsOf, callsOf, List.filter_append]
  case room =>
    intro arity
    rcases contributes.bucket_cases arity with same | ⟨entry, isAdded, rfl, grown⟩
    · rw [same]
      exact accounted.room arity
    · rw [grown, List.length_append]
      exact (contributes.sound entry isAdded).1
  case unrepeated =>
    intro skip arity
    have old := accounted.unrepeated skip arity
    rcases contributes.bucket_cases arity with same | ⟨entry, isAdded, rfl, grown⟩
    · rwa [same]
    · have new := (contributes.sound entry isAdded).2 (accounted.policy_eq.trans skip)
      rw [grown, List.pairwise_append]
      refine ⟨old, List.pairwise_singleton _ _, fun held member late isLate => ?_⟩
      rw [List.mem_singleton.mp isLate]
      exact new held member
  case slot =>
    rw [contributes.slot, accounted.slot, List.any_append]
    simp
  case len =>
    rw [contributes.len, accounted.len, List.countP_append, List.any_append, ← accounted.slot]
    cases slot : cache.zeroArity with
    | none => simp
    | some result => simp [Nat.add_right_comm]

end Accounted

/-- At every moment of a run, with calls nested to any depth: each bucket holds, in order and
within its room, the entries of its arity that were stored so far, and no two that agree if
duplicates are skipped; the length counts them and the slot; what a bucket held at an earlier
moment it still begins with. A use that stores nothing leaves the cache to which its access
came as it is. -/
theorem UserCode.accounted_of_prefix {Out : Type} (runtime : Runtime World Arg Val Ty R Err)
    (tooDeep : Err) (depth : Nat) (code : UserCode World Arg R Err Out) {place : Nat}
    {policy : InsertPolicy} {start : Ambient World Ty R}
    (fresh : start.shared[place]? = some (SharedCache.empty policy))
    {past : List (Deed World Arg Val Ty R Err)}
    (moment : past <+: code.deeds (runtime.host tooDeep depth)
      (runtime.watch tooDeep depth).deeds start) :
    let now := reached start past
    Linked start past now ∧
    Accounted policy (usesAt place past) (now.cacheAt place) ∧
    (∀ arity, ∀ entry ∈ (now.cacheAt place).bucket arity, entry.fingerprint.arity = arity) ∧
    (now.sharedAt place).len =
      ((usesAt place past).countP fun use => use.outcome? = some .stored) +
        (if (usesAt place past).any fun use => use.outcome? = some .zeroArity then 1 else 0) ∧
    (∀ earlier, earlier <+: past → ∀ arity,
      ((reached start earlier).cacheAt place).bucket arity <+: (now.cacheAt place).bucket arity) ∧
    (∀ use ∈ usesAt place past, use.outcome? ≠ some .stored → use.outcome? ≠ some .zeroArity →
      use.after.cacheAt place = use.before.cacheAt place) := by
  have accounted : ∀ {past : List (Deed World Arg Val Ty R Err)},
      past <+: code.deeds (runtime.host tooDeep depth) (runtime.watch tooDeep depth).deeds start →
      Accounted policy (usesAt place past) ((reached start past).cacheAt place) :=
    code.holds_of_prefix runtime tooDeep depth fresh
      (fun _ _ _ _ effect accounted => accounted.concat effect.contributes) (.empty policy)
  obtain ⟨linked, shares⟩ := code.linked_of_prefix runtime tooDeep depth moment
  refine ⟨linked, accounted moment, ?_, ?_, ?_, ?_⟩
  · intro arity entry member
    rw [(accounted moment).bucket] at member
    exact of_decide_eq_true (List.mem_filter.mp member).2
  · rw [SharedCache.len_eq]
    exact (accounted moment).len
  · intro earlier before arity
    rw [(accounted moment).bucket, (accounted (before.trans moment)).bucket]
    exact ((before.filterMap _).filterMap _).filter _
  · intro use member stored slot
    obtain ⟨deed, isDeed, isUse⟩ := List.mem_filterMap.mp member
    obtain ⟨rfl, rfl⟩ := Deed.eq_use_of_useAt? isUse
    have here : use.place < use.before.shared.length := by
      rw [show use.before = (Deed.use use).before from rfl,
        linked.length_shared_of_mem shares isDeed]
      exact (List.getElem?_eq_some_iff.mp fresh).1
    exact (use.effect here).contributes.kept stored slot

end DispatchCache

namespace DispatchCache.Reentrant

/-- The failing add leaves behind what its argument filed, and the outer duplicate nothing. -/
theorem session_accounted :
    let deeds := session.deeds (runtime.host "deep" 2) (runtime.watch "deep" 2).deeds
      (start .skipDuplicates)
    let now := reached (start .skipDuplicates) deeds
    Accounted .skipDuplicates (uses .skipDuplicates) (now.cacheAt 0) ∧ (now.sharedAt 0).len = 2 ∧
      (now.cacheAt 0).bucket 1 = [⟨⟨[.object 0]⟩, "inner"⟩] ∧
      (now.cacheAt 0).bucket 2 = [⟨⟨[.object 0, .object 0]⟩, "kept"⟩] := by
  intro deeds now
  have fresh : (start .skipDuplicates).shared[0]? = some (.empty .skipDuplicates) := rfl
  obtain ⟨-, accounted, -⟩ :=
    session.accounted_of_prefix runtime "deep" 2 fresh (List.prefix_rfl : deeds <+: deeds)
  exact ⟨accounted, rfl, rfl, rfl⟩

end DispatchCache.Reentrant
