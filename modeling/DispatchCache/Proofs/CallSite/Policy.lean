import DispatchCache.Proofs.CallSite.Ending
import DispatchCache.Proofs.CallSite.Transparency

/-! # The policy of a call site does not show

A call site files a result only after its lookup found none for the same arguments. As long as
a dispatch reads its arguments alike for the lookup and for the insert, the fingerprint that it
files is not in the bucket yet, and the policy for fingerprints that are never comes into play. -/

namespace DispatchCache

variable {World Arg Val Ty R Err : Type}

namespace Cache

/-- The same contents under another policy. -/
def withPolicy (cache : Cache Ty R) (policy : InsertPolicy) : Cache Ty R := { cache with policy }

variable (cache : Cache Ty R) (policy : InsertPolicy)

@[simp] theorem bucket_withPolicy (arity : Nat) :
    (cache.withPolicy policy).bucket arity = cache.bucket arity := by
  cases arity <;> rfl

@[simp] theorem isFull_withPolicy (arity : Nat) :
    (cache.withPolicy policy).isFull arity = cache.isFull arity := by
  rw [isFull, bucketLen, bucket_withPolicy]
  rfl

theorem setBucket_withPolicy (arity : Nat) (entries : List (Entry Ty R)) :
    (cache.withPolicy policy).setBucket arity entries =
      (cache.setBucket arity entries).withPolicy policy := by
  cases arity <;> rfl

/-- No two entries of a bucket have fingerprints that agree. -/
def Distinct [DecidableEq Ty] (cache : Cache Ty R) : Prop :=
  ∀ arity, (cache.bucket arity).Pairwise fun earlier later =>
    earlier.fingerprint.agrees later.fingerprint = false

variable [DecidableEq Ty] {cache} {print : Fingerprint Ty}

theorem distinct_empty (policy : InsertPolicy) : (empty policy : Cache Ty R).Distinct := by
  intro arity
  simp

theorem Distinct.withPolicy (distinct : cache.Distinct) : (cache.withPolicy policy).Distinct := by
  intro arity
  rw [bucket_withPolicy]
  exact distinct arity

section Fresh

variable (fresh : cache.get print = none) (result : R)

include fresh

/-- The policy decides only about fingerprints that are known already. -/
theorem insertFingerprint_withPolicy :
    (cache.withPolicy policy).insertFingerprint print result =
      Prod.map id (Cache.withPolicy · policy) (cache.insertFingerprint print result) := by
  have unknown : (cache.bucket print.arity).any (fun entry => entry.fingerprint.agrees print) =
      false := by
    simpa [get_eq_none_iff] using fresh
  simp only [insertFingerprint, bucket_withPolicy, isFull_withPolicy, unknown, Bool.false_eq_true,
    and_false, if_false, setBucket_withPolicy]
  split_ifs <;> rfl

theorem outcome_ne_duplicate : (cache.insertFingerprint print result).1 ≠ .duplicate := by
  have way := cache.insertion print result
  generalize cache.insertFingerprint print result = filed at way ⊢
  cases way with
  | duplicate pos le room skip known => exact absurd fresh known
  | _ => exact nofun

theorem Distinct.insertFingerprint (distinct : cache.Distinct) :
    (cache.insertFingerprint print result).2.Distinct := by
  intro arity
  rw [bucket_insertFingerprint]
  split_ifs with stored
  · obtain ⟨-, rfl⟩ := stored
    rw [List.pairwise_append]
    refine ⟨distinct _, List.pairwise_singleton _ _, fun entry member last isLast => ?_⟩
    obtain rfl := List.mem_singleton.mp isLast
    exact (get_eq_none_iff cache print).mp fresh entry member
  · exact distinct arity

end Fresh

/-- What an insert reads is not in the cache yet. -/
def FreshFor (cache : Cache Ty R) (host : Host World Arg Val Ty R Err) (call : Capture Arg)
    (ambient : Ambient World Ty R) : Prop :=
  ∀ arity print after, call.shape maxArity = .positional arity → cache.isFull arity = false →
    (extract host call.positional).eval ambient = (.ok print, after) → cache.get print = none

section FreshFor

variable {host : Host World Arg Val Ty R Err} {call : Capture Arg} {ambient : Ambient World Ty R}
variable (fresh : cache.FreshFor host call ambient) (result : R)

include fresh

theorem eval_insert_withPolicy :
    ((cache.withPolicy policy).insert host call result).eval ambient =
      (((cache.insert host call result).eval ambient).1.mapError
            (Halted.within (Cache.withPolicy · policy)) |>.map
          (Prod.map id (Cache.withPolicy · policy)),
        ((cache.insert host call result).eval ambient).2) := by
  cases shape : call.shape maxArity with
  | named =>
    simp only [insert, shape]
    rfl
  | tooWide arity =>
    simp only [insert, shape]
    rfl
  | zeroArity =>
    simp only [insert, shape]
    rfl
  | positional arity =>
    cases full : cache.isFull arity with
    | true =>
      rw [eval_insert_of_full host result ambient shape full,
        eval_insert_of_full host result ambient shape
          ((isFull_withPolicy cache policy _).trans full)]
      rfl
    | false =>
      have room := (isFull_withPolicy cache policy arity).trans full
      rcases read : (extract host call.positional).eval ambient with ⟨cause | print, after⟩
      · rw [eval_insert_of_unread result shape full read,
          eval_insert_of_unread result shape room read]
        rfl
      · rw [eval_insert_of_read result shape full read, eval_insert_of_read result shape room read,
          insertFingerprint_withPolicy policy (fresh arity print after shape full read)]
        rfl

/-- A result that is filed for the first time is no duplicate, and the cache stays distinct. -/
theorem distinct_of_insert (distinct : cache.Distinct) {outcome : InsertOutcome}
    {filed : Cache Ty R} {after : Ambient World Ty R}
    (done : (cache.insert host call result).eval ambient = (.ok (outcome, filed), after)) :
    outcome ≠ .duplicate ∧ filed.Distinct := by
  have way := cache.callInsert host call result ambient
  rw [done] at way
  cases way with
  | uncacheable shape => exact ⟨nofun, distinct⟩
  | zeroArity shape =>
    refine ⟨nofun, fun arity => ?_⟩
    rw [bucket_setZeroArity]
    exact distinct arity
  | full shape full => exact ⟨nofun, distinct⟩
  | @read arity print _ _ shape room read inserted =>
    have unknown := fresh arity print after shape room read
    have filing := And.intro (outcome_ne_duplicate unknown result)
      (distinct.insertFingerprint unknown result)
    rwa [inserted] at filing

end FreshFor

end Cache

namespace CallSite

variable {Fail : Type} [DecidableEq Ty]

omit [DecidableEq Ty] in
/-- The same site under another policy. -/
def withPolicy (site : CallSite Ty R) (policy : InsertPolicy) : CallSite Ty R :=
  ⟨site.cache.map (Cache.withPolicy · policy), policy⟩

omit [DecidableEq Ty] in
theorem opened_withPolicy (site : CallSite Ty R) (policy : InsertPolicy) :
    (site.withPolicy policy).opened = site.opened.withPolicy policy := by
  rcases site with ⟨_ | cache, old⟩ <;> rfl

theorem looking_withPolicy (site : CallSite Ty R) (policy : InsertPolicy)
    (host : Host World Arg Val Ty R Err) (call : Capture Arg) (ambient : Ambient World Ty R) :
    (site.withPolicy policy).looking host call ambient = site.looking host call ambient := by
  rcases site with ⟨_ | cache, old⟩ <;> rfl

namespace Moment

variable (moment : Moment World Arg Val Ty R Err Fail) (policy : InsertPolicy)

omit [DecidableEq Ty] in
def withPolicy : Moment World Arg Val Ty R Err Fail :=
  { moment with site := moment.site.withPolicy policy }

theorem looked_withPolicy : (moment.withPolicy policy).looked = moment.looked :=
  looking_withPolicy _ _ _ _ _

variable {moment} (steady : moment.Steady)

include steady

/-- A dispatch that files a result has looked for just what it files. -/
theorem freshFor_of_steady {seen mid : Ambient World Ty R} {result : R}
    (looked : moment.looked = (.ok none, seen))
    (resolved : resolving moment.resolve moment.call seen = (.ok result, mid)) :
    moment.site.opened.FreshFor moment.host moment.call mid := by
  intro arity print after shape room read
  rcases callLookup_of_looking looked with ⟨absent, -, -⟩ | ⟨cache, present, way⟩
  · rw [opened, absent]
    exact Cache.get_empty _ print
  · have resolved_eq := resolved_of_looking looked
    have filedAs : moment.filedAs = .ok print := by
      rw [Moment.filedAs, resolved_eq, resolved, read]
    have reading := steady arity result shape (congrArg Prod.fst looked)
      (by rw [resolved_eq, resolved]) room
    rw [filedAs, reading_of_present present, lookedUpAs] at reading
    rw [opened_of_present present]
    generalize missed : (none : Option R) = answer at way ⊢
    cases way with
    | uncacheable refused => simp [shape, CallShape.isCacheable] at refused
    | zeroArity zero => simp [shape] at zero
    | read _ lookup got =>
      rw [lookup] at reading
      cases reading
      exact got

/-- What a steady dispatch files is filed alike under another policy. -/
theorem filing_withPolicy {seen mid : Ambient World Ty R} {result : R}
    (looked : moment.looked = (.ok none, seen))
    (resolved : resolving moment.resolve moment.call seen = (.ok result, mid))
    {answer : Except (Halted (Cache Ty R) Err) (InsertOutcome × Cache Ty R)}
    {after : Ambient World Ty R}
    (filed : moment.site.filing moment.host moment.call result mid = (answer, after)) :
    (moment.withPolicy policy).site.filing moment.host moment.call result mid =
      ((answer.mapError (Halted.within (Cache.withPolicy · policy))).map
        (Prod.map id (Cache.withPolicy · policy)), after) := by
  have inserted := Cache.eval_insert_withPolicy policy
    (freshFor_of_steady steady looked resolved) result
  rw [show (moment.site.opened.insert moment.host moment.call result).eval mid = _ from filed,
    ← opened_withPolicy] at inserted
  exact inserted

/-- A steady dispatch goes the same way under another policy. -/
theorem dispatched_withPolicy :
    (moment.withPolicy policy).dispatched =
        ({ moment.dispatched.1 with site := moment.dispatched.1.site.withPolicy policy },
          moment.dispatched.2) ∧
      (moment.withPolicy policy).ending = moment.ending := by
  have follows := moment.course
  have peer_looked := moment.looked_withPolicy policy
  generalize moment.dispatched = done at follows ⊢
  cases follows with
  | unread looked =>
    have looked' := peer_looked.trans looked
    rw [ending_of_unread looked, ending_of_unread looked']
    exact ⟨dispatch_of_unread looked', rfl⟩
  | hit looked =>
    have looked' := peer_looked.trans looked
    rw [ending_of_hit looked, ending_of_hit looked']
    exact ⟨dispatch_of_hit looked', rfl⟩
  | unresolved looked resolved =>
    have looked' := peer_looked.trans looked
    rw [ending_of_unresolved looked resolved, ending_of_unresolved looked' resolved]
    exact ⟨dispatch_of_unresolved looked' resolved, rfl⟩
  | @unfiled seen result mid cause after looked resolved filed =>
    have looked' := peer_looked.trans looked
    have filed' := filing_withPolicy policy steady looked resolved filed
    rw [ending_of_unfiled looked resolved filed, ending_of_unfiled looked' resolved filed']
    exact ⟨(dispatch_of_resolved looked' resolved).trans (file_of_unfiled filed'), rfl⟩
  | @filed seen result mid outcome cache after looked resolved filed =>
    have looked' := peer_looked.trans looked
    have filed' := filing_withPolicy policy steady looked resolved filed
    rw [ending_of_filed looked resolved filed, ending_of_filed looked' resolved filed']
    exact ⟨(dispatch_of_resolved looked' resolved).trans (file_of_filed filed'), rfl⟩

/-- A steady dispatch keeps the cache of its site distinct and files no duplicate. -/
theorem distinct_dispatched (distinct : moment.site.opened.Distinct) :
    moment.dispatched.1.site.opened.Distinct ∧ moment.ending ≠ .filed .duplicate := by
  have follows := moment.course
  generalize moment.dispatched = done at follows ⊢
  cases follows with
  | unread looked =>
    rw [ending_of_unread looked]
    exact ⟨distinct, nofun⟩
  | hit looked =>
    rw [ending_of_hit looked]
    exact ⟨distinct, nofun⟩
  | unresolved looked resolved =>
    rw [ending_of_unresolved looked resolved]
    exact ⟨distinct, nofun⟩
  | unfiled looked resolved filed =>
    rw [ending_of_unfiled looked resolved filed]
    exact ⟨distinct, nofun⟩
  | filed looked resolved filed =>
    obtain ⟨other, filed_distinct⟩ :=
      Cache.distinct_of_insert (freshFor_of_steady steady looked resolved) _ distinct filed
    rw [ending_of_filed looked resolved filed]
    exact ⟨filed_distinct, fun same => other (Ending.filed.inj same)⟩

end Moment

/-- A run of steady dispatches goes the same way under another policy. -/
theorem history_withPolicy (policy : InsertPolicy)
    {requests : List (Request World Arg Val Ty R Err Fail)} {site : CallSite Ty R}
    {ambient : Ambient World Ty R}
    (steady : ∀ moment ∈ history requests site ambient, moment.Steady) :
    history requests (site.withPolicy policy) ambient =
      (history requests site ambient).map (Moment.withPolicy · policy) := by
  induction requests generalizing site ambient with
  | nil => rfl
  | cons request requests ih =>
    obtain ⟨first, later⟩ := List.forall_mem_cons.mp steady
    have peer : (⟨site.withPolicy policy, request.before ambient, request.host, request.resolve,
        request.call⟩ : Moment World Arg Val Ty R Err Fail) =
      Moment.withPolicy ⟨site, request.before ambient, request.host, request.resolve,
        request.call⟩ policy := rfl
    rw [history, history, peer]
    generalize (⟨site, request.before ambient, request.host, request.resolve, request.call⟩ :
      Moment World Arg Val Ty R Err Fail) = moment at first later ⊢
    rw [List.map_cons, (Moment.dispatched_withPolicy policy first).1, ih later]

/-- New sites of any two policies that are given the same dispatches in the same state, where one
reads its arguments alike for the lookup and for the insert. Each dispatch of the one is a
dispatch of the other in the same state: both look up alike, end alike, answer and count alike,
and leave the same state and the same entries. No dispatch files a duplicate, and no bucket ever
holds two fingerprints that agree. -/
theorem history_new_withPolicy (policy other : InsertPolicy)
    (requests : List (Request World Arg Val Ty R Err Fail)) (ambient : Ambient World Ty R)
    (steady : ∀ moment ∈ history requests (new policy) ambient, moment.Steady) :
    history requests (new other) ambient =
        (history requests (new policy) ambient).map (Moment.withPolicy · other) ∧
      ∀ moment ∈ history requests (new policy) ambient,
        let peer := moment.withPolicy other
        peer.looked = moment.looked ∧ peer.ending = moment.ending ∧
        peer.dispatched =
          ({ moment.dispatched.1 with site := moment.dispatched.1.site.withPolicy other },
            moment.dispatched.2) ∧
        moment.ending ≠ .filed .duplicate ∧
        ∀ cache, moment.dispatched.1.site.cache = some cache ∨
            peer.dispatched.1.site.cache = some cache →
          cache.Distinct := by
  have distinct : ∀ moment ∈ history requests (new policy) ambient,
      moment.site.opened.Distinct :=
    history_invariant (fun site => site.opened.Distinct) (Cache.distinct_empty policy)
      fun moment member kept => (Moment.distinct_dispatched (steady moment member) kept).1
  refine ⟨history_withPolicy other steady, fun moment member => ?_⟩
  intro peer
  obtain ⟨dispatched, ending⟩ := Moment.dispatched_withPolicy other (steady moment member)
  obtain ⟨kept, fresh⟩ :=
    Moment.distinct_dispatched (steady moment member) (distinct moment member)
  refine ⟨moment.looked_withPolicy other, ending, dispatched, fresh, ?_⟩
  rintro cache (present | present)
  · rwa [opened_of_present present] at kept
  · rw [dispatched] at present
    obtain ⟨own, isOwn, rfl⟩ := Option.map_eq_some_iff.mp present
    rw [opened_of_present isOwn] at kept
    exact kept.withPolicy other

/-- An object, met again after an argument of unknown kind was filed twice. -/
theorem declared_history_withPolicy :
    let resolve : Resolver Declared.World Declared.Arg Nat String Empty := fun _ => pure "resolved"
    let object : Capture Declared.Arg := ⟨[{ id := 1, own := some 0, held := some 3 }], []⟩
    let unknown : Capture Declared.Arg := ⟨[{ id := 2 }], []⟩
    let requests : List (Request Declared.World Declared.Arg Declared.Val Nat String
        Declared.Unreadable Empty) :=
      [object, unknown, unknown, object].map fun call => ⟨Declared.host [], resolve, call, id⟩
    let moments := history requests (new .allowDuplicates) { world := [] }
    moments.map Moment.ending = [.filed .stored, .filed .stored, .filed .stored, .hit] ∧
    history requests (new .skipDuplicates) { world := [] } =
      moments.map (Moment.withPolicy · .skipDuplicates) := by
  intro resolve object unknown requests moments
  have reads_object : ∀ ambient : Ambient Declared.World Nat String,
      ((extract (Declared.host []) object.positional).eval ambient).1 = .ok ⟨[.object 3]⟩ :=
    fun _ => rfl
  have reads_unknown : ∀ ambient : Ambient Declared.World Nat String,
      ((extract (Declared.host []) unknown.positional).eval ambient).1 = .ok ⟨[.unset]⟩ :=
    fun _ => rfl
  have steady : ∀ moment ∈ moments, moment.Steady := by
    simp only [moments, requests, List.map_cons, List.map_nil, history, List.mem_cons,
      List.not_mem_nil, or_false]
    rintro moment (rfl | rfl | rfl | rfl)
    · exact Moment.steady_of_constant reads_object
    · exact Moment.steady_of_constant reads_unknown
    · exact Moment.steady_of_constant reads_unknown
    · exact Moment.steady_of_constant reads_object
  exact ⟨by decide +kernel,
    (history_new_withPolicy .allowDuplicates .skipDuplicates requests _ steady).1⟩

end CallSite

end DispatchCache
