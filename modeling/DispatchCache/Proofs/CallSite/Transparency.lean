import DispatchCache.Proofs.CallSite.History
import DispatchCache.Declared

/-! # Dispatching through a cache answers like resolving

Every entry of a site's cache is vouched for by a dispatch of the run: that dispatch read its
arguments as the entry's fingerprint, and its resolver answered the entry's result. When a
dispatch reads its arguments alike whenever it reads them, and resolvers answer alike for
fingerprints that agree, a cached answer is the one that resolving would give. -/

namespace DispatchCache.CallSite

variable {World Arg Val Ty R Err Fail : Type} [DecidableEq Ty]

namespace Moment

variable (moment : Moment World Arg Val Ty R Err Fail)

/-- What the arguments read as when the call is looked up. -/
def lookedUpAs : Except Err (Fingerprint Ty) :=
  ((extract moment.host moment.call.positional).eval moment.ambient).1

/-- What the arguments read as once the call is resolved. -/
def filedAs : Except Err (Fingerprint Ty) :=
  ((extract moment.host moment.call.positional).eval moment.resolved.2).1

/-- What a dispatch takes its arguments for. A lookup reads them only where there is a cache. -/
def reading : Except Err (Fingerprint Ty) :=
  if moment.site.cache.isSome then moment.lookedUpAs else moment.filedAs

/-- A dispatch that comes to read its arguments for the insert reads them as before. -/
def Steady : Prop :=
  ∀ arity result, moment.call.shape maxArity = .positional arity →
    moment.looked.1 = .ok none → moment.resolved.1 = .ok result →
    moment.site.opened.isFull arity = false → moment.filedAs = moment.reading

/-- Each argument can be read, if the call is one whose arguments are read at all. -/
def Readable : Prop :=
  ∀ arity, moment.call.shape maxArity = .positional arity →
    ∃ print, moment.reading = .ok print

/-- A dispatch that stands for an entry of a cache. -/
structure Vouches (print : Fingerprint Ty) (result : R) : Prop where
  cacheable : (moment.call.shape maxArity).isCacheable = true
  reading : moment.reading = .ok print
  resolved : moment.resolved.1 = .ok result

end Moment

/-- Resolvers answer alike, with a result or a failure, for calls whose fingerprints agree. -/
def Alike (moments : List (Moment World Arg Val Ty R Err Fail)) : Prop :=
  ∀ first ∈ moments, ∀ second ∈ moments,
    (first.call.shape maxArity).isCacheable = true →
    (second.call.shape maxArity).isCacheable = true →
    ∀ print print', first.reading = .ok print → second.reading = .ok print' →
      print.agrees print' = true → first.resolved.1 = second.resolved.1

/-- Everything a cache holds is vouched for. -/
structure Justified (moments : List (Moment World Arg Val Ty R Err Fail)) (cache : Cache Ty R) :
    Prop where
  slot : ∀ result, cache.zeroArity = some result → ∃ moment ∈ moments, moment.Vouches ⟨[]⟩ result
  entries : ∀ arity, ∀ entry ∈ cache.bucket arity,
    ∃ moment ∈ moments, moment.Vouches entry.fingerprint entry.result

section Justified

variable {moments : List (Moment World Arg Val Ty R Err Fail)} {cache : Cache Ty R}

theorem justified_empty (policy : InsertPolicy) : Justified moments (Cache.empty policy) where
  slot result h := by cases h
  entries arity entry member := by simp at member

theorem Justified.insertFingerprint {moment : Moment World Arg Val Ty R Err Fail}
    {print : Fingerprint Ty} {result : R} (justified : Justified moments cache)
    (member : moment ∈ moments) (vouches : moment.Vouches print result) :
    Justified moments (cache.insertFingerprint print result).2 where
  slot other h := by
    rw [Cache.zeroArity_insertFingerprint] at h
    split_ifs at h with zero
    · obtain rfl : result = other := Option.some.inj h
      obtain rfl : print = ⟨[]⟩ := congrArg Fingerprint.mk (List.length_eq_zero_iff.mp zero)
      exact ⟨moment, member, vouches⟩
    · exact justified.slot other h
  entries arity entry h := by
    rw [Cache.bucket_insertFingerprint] at h
    split_ifs at h with stored
    · rcases List.mem_append.mp h with old | new
      · exact justified.entries arity entry old
      · obtain rfl := List.mem_singleton.mp new
        exact ⟨moment, member, vouches⟩
    · exact justified.entries arity entry h

end Justified

section Step

variable {moments : List (Moment World Arg Val Ty R Err Fail)}
variable {moment : Moment World Arg Val Ty R Err Fail}

theorem Moment.reading_of_present {cache : Cache Ty R} (present : moment.site.cache = some cache) :
    moment.reading = moment.lookedUpAs := by
  rw [reading, present, Option.isSome_some, if_pos rfl]

theorem Moment.reading_of_zeroArity (shape : moment.call.shape maxArity = .zeroArity) :
    moment.reading = .ok ⟨[]⟩ := by
  unfold reading lookedUpAs filedAs
  rw [Capture.positional_of_zeroArity shape, eval_extract_nil, eval_extract_nil]
  split_ifs <;> rfl

/-- A dispatch leaves a justified cache: what it files, it vouches for itself. -/
theorem justified_dispatched (member : moment ∈ moments) (steady : moment.Steady)
    (justified : Justified moments moment.site.opened) :
    Justified moments moment.dispatched.1.site.opened := by
  have follows := moment.course
  generalize moment.dispatched = done at follows ⊢
  cases follows with
  | unread looked => exact justified
  | hit looked => exact justified
  | unresolved looked resolved => exact justified
  | unfiled looked resolved filed => exact justified
  | @filed seen result mid outcome cache after looked resolved filed =>
    show Justified moments cache
    have resolved_eq : moment.resolved = (.ok result, mid) :=
      (Moment.resolved_of_looking looked).trans resolved
    cases callInsert_of_filing filed with
    | uncacheable shape => exact justified
    | zeroArity shape =>
      exact justified.insertFingerprint member
        ⟨by rw [shape]; rfl, Moment.reading_of_zeroArity shape, by rw [resolved_eq]⟩
    | full shape full => exact justified
    | @read arity print _ _ shape room read inserted =>
      have filedAs : moment.filedAs = .ok print := by rw [Moment.filedAs, resolved_eq, read]
      have reading : moment.reading = .ok print := by
        rw [← steady arity result shape (congrArg Prod.fst looked) (by rw [resolved_eq]) room,
          filedAs]
      have vouches : moment.Vouches print result :=
        ⟨by rw [shape]; rfl, reading, by rw [resolved_eq]⟩
      have after := justified.insertFingerprint member vouches
      rw [inserted] at after
      exact after

/-- A cached answer is vouched for by a dispatch that agrees with this one. -/
theorem vouched_of_hit {result : R} {after : Ambient World Ty R}
    (justified : Justified moments moment.site.opened)
    (hit : moment.site.looking moment.host moment.call moment.ambient =
      (.ok (some result), after)) :
    (moment.call.shape maxArity).isCacheable = true ∧
    ∃ first ∈ moments, ∃ print print', first.Vouches print result ∧
      moment.reading = .ok print' ∧ print.agrees print' = true := by
  rcases callLookup_of_looking hit with ⟨-, found, -⟩ | ⟨cache, present, way⟩
  · cases found
  · rw [opened_of_present present] at justified
    generalize answered : some result = answer at way
    cases way with
    | uncacheable shape => cases answered
    | zeroArity shape slot =>
      obtain ⟨first, member, vouches⟩ := justified.slot result (slot.trans answered.symm)
      exact ⟨by rw [shape]; rfl, first, member, ⟨[]⟩, ⟨[]⟩, vouches,
        Moment.reading_of_zeroArity shape, rfl⟩
    | @read arity print _ _ shape read got =>
      obtain ⟨entry, member_entry, agrees, rfl⟩ :=
        Cache.exists_entry_of_get (got.trans answered.symm)
      obtain ⟨first, member, vouches⟩ := justified.entries _ entry member_entry
      have reading : moment.reading = .ok print := by
        rw [Moment.reading_of_present present, Moment.lookedUpAs, read]
      exact ⟨by rw [shape]; rfl, first, member, _, print, vouches, reading, agrees⟩

/-- One dispatch over a justified cache answers what its resolver would. -/
theorem answer_of_justified (steady : moment.Steady) (alike : Alike moments)
    (member : moment ∈ moments) (justified : Justified moments moment.site.opened)
    (readable : moment.Readable) :
    moment.dispatched.1.answer = moment.resolved.1.mapError .resolve := by
  have follows := moment.course
  generalize moment.dispatched = done at follows ⊢
  cases follows with
  | @unread cause after looked =>
    exfalso
    rcases callLookup_of_looking looked with ⟨-, found, -⟩ | ⟨cache, present, way⟩
    · cases found
    · cases way with
      | unread shape read =>
        obtain ⟨print, reading⟩ := readable _ shape
        rw [Moment.reading_of_present present, Moment.lookedUpAs, read] at reading
        cases reading
  | @hit result after looked =>
    obtain ⟨cacheable, first, earlier, print, print', vouches, reading, agrees⟩ :=
      vouched_of_hit justified looked
    have same : first.resolved.1 = moment.resolved.1 :=
      alike first earlier moment member vouches.cacheable cacheable print print'
        vouches.reading reading agrees
    show (.ok result : Except (DispatchError Err Fail) R) = _
    rw [← same, vouches.resolved]
    rfl
  | @unresolved seen cause after looked resolved =>
    rw [Moment.resolved_of_looking looked, resolved]
    rfl
  | @unfiled seen result mid cause after looked resolved filed =>
    exfalso
    have resolved_eq : moment.resolved = (.ok result, mid) :=
      (Moment.resolved_of_looking looked).trans resolved
    cases callInsert_of_filing filed with
    | @unread arity _ _ shape room read =>
      obtain ⟨print, reading⟩ := readable arity shape
      rw [← steady arity result shape (congrArg Prod.fst looked) (by rw [resolved_eq]) room,
        Moment.filedAs, resolved_eq, read] at reading
      cases reading
  | @filed seen result mid outcome cache after looked resolved filed =>
    rw [Moment.resolved_of_looking looked, resolved]
    rfl

end Step

section Constant

variable {moment : Moment World Arg Val Ty R Err Fail} {answer : Except Err (Fingerprint Ty)}
variable (constant :
  ∀ ambient, ((extract moment.host moment.call.positional).eval ambient).1 = answer)

include constant

theorem Moment.reading_of_constant : moment.reading = answer := by
  unfold reading lookedUpAs filedAs
  rw [constant, constant, ite_self]

/-- Arguments that read the same at any time make a steady dispatch. -/
theorem Moment.steady_of_constant : moment.Steady := by
  intro arity result _ _ _ _
  rw [reading_of_constant constant, filedAs, constant]

end Constant

/-- In a run from a new site, whatever its policy, each dispatch answers what its resolver
would at that moment, if its arguments can be read. Nothing is asked of the arguments of calls
that have named ones or are too wide. -/
theorem answer_of_mem_history (policy : InsertPolicy)
    (requests : List (Request World Arg Val Ty R Err Fail)) (ambient : Ambient World Ty R)
    (steady : ∀ moment ∈ history requests (new policy) ambient, moment.Steady)
    (alike : Alike (history requests (new policy) ambient)) :
    ∀ moment ∈ history requests (new policy) ambient, moment.Readable →
      moment.dispatched.1.answer = moment.resolved.1.mapError .resolve := by
  intro moment member readable
  have justified : ∀ moment ∈ history requests (new policy) ambient,
      Justified (history requests (new policy) ambient) moment.site.opened :=
    history_invariant (fun site => Justified (history requests (new policy) ambient) site.opened)
      (justified_empty policy)
      fun moment member justified => justified_dispatched member (steady moment member) justified
  exact answer_of_justified (steady moment member) alike member (justified moment member) readable

/-- A run over arguments that spell out their answers, with a hit at its end. -/
theorem declared_history_answers :
    let resolve : Resolver Declared.World Declared.Arg Nat String Empty := fun call =>
      pure (if call.positional.all Declared.Arg.isInt then "integers" else "others")
    let int : Capture Declared.Arg := ⟨[{ id := 1, isInt := true }], []⟩
    let object : Capture Declared.Arg := ⟨[{ id := 2, own := some 0, held := some 3 }], []⟩
    let requests : List (Request Declared.World Declared.Arg Declared.Val Nat String
        Declared.Unreadable Empty) :=
      [⟨Declared.host [], resolve, int, id⟩, ⟨Declared.host [], resolve, object, id⟩,
        ⟨Declared.host [], resolve, int, id⟩]
    let moments := history requests (new .skipDuplicates) { world := [] }
    moments.map (fun moment => moment.dispatched.1.tally) =
      [.miss + .ofOutcome .stored, .miss + .ofOutcome .stored, .hit] ∧
    ∀ moment ∈ moments, moment.dispatched.1.answer = moment.resolved.1.mapError .resolve := by
  intro resolve int object requests moments
  have reads_int : ∀ ambient : Ambient Declared.World Nat String,
      ((extract (Declared.host []) int.positional).eval ambient).1 = .ok ⟨[.nativeInt]⟩ :=
    fun _ => rfl
  have reads_object : ∀ ambient : Ambient Declared.World Nat String,
      ((extract (Declared.host []) object.positional).eval ambient).1 = .ok ⟨[.object 3]⟩ :=
    fun _ => rfl
  have known : ∀ moment ∈ moments, moment.Steady ∧
      ((moment.reading = .ok ⟨[.nativeInt]⟩ ∧ moment.resolved.1 = .ok "integers") ∨
        (moment.reading = .ok ⟨[.object 3]⟩ ∧ moment.resolved.1 = .ok "others")) := by
    simp only [moments, requests, history, List.mem_cons, List.not_mem_nil, or_false]
    rintro moment (rfl | rfl | rfl)
    · exact ⟨Moment.steady_of_constant reads_int, .inl ⟨Moment.reading_of_constant reads_int, rfl⟩⟩
    · exact ⟨Moment.steady_of_constant reads_object,
        .inr ⟨Moment.reading_of_constant reads_object, rfl⟩⟩
    · exact ⟨Moment.steady_of_constant reads_int, .inl ⟨Moment.reading_of_constant reads_int, rfl⟩⟩
  have alike : Alike moments := by
    intro first hfirst second hsecond _ _ print print' reading reading' agrees
    rcases (known first hfirst).2 with ⟨read, resolved⟩ | ⟨read, resolved⟩
    · rcases (known second hsecond).2 with ⟨read', resolved'⟩ | ⟨read', resolved'⟩
      · rw [resolved, resolved']
      · cases read.symm.trans reading
        cases read'.symm.trans reading'
        cases agrees
    · rcases (known second hsecond).2 with ⟨read', resolved'⟩ | ⟨read', resolved'⟩
      · cases read.symm.trans reading
        cases read'.symm.trans reading'
        cases agrees
      · rw [resolved, resolved']
  refine ⟨by decide +kernel, fun moment member => ?_⟩
  have readable : moment.Readable := by
    intro arity _
    rcases (known moment member).2 with ⟨read, -⟩ | ⟨read, -⟩
    · exact ⟨_, read⟩
    · exact ⟨_, read⟩
  exact answer_of_mem_history _ _ _ (fun moment member => (known moment member).1) alike moment
    member readable

end DispatchCache.CallSite
