import DispatchCache.Proofs.Cache.Calls
import DispatchCache.Proofs.Classification.Recording
import DispatchCache.Proofs.SharedCache.Apart

/-! # Shared and plain caches in lockstep

A shared cache and a plain one are two programs for one protocol. Where user code stays clear
of the shared cache, they cannot be told apart: any sequence of requests is answered alike,
reads the same arguments in the same order and makes the same slots, and both caches have the
same length all along, also while the shared one has no cache behind it yet. -/

namespace DispatchCache

variable {World Arg Val Ty R Err : Type}

theorem Host.Apart.recorded {host : Host World Arg Val Ty R Err} {place : Nat}
    (apart : host.Apart place) : host.recorded.Apart place := by
  intro arg
  constructor
  case alike =>
    intro a b alike
    have inner : a.forget.Alike place b.forget :=
      ⟨congrArg Prod.fst alike.world, alike.slots, alike.shared⟩
    have record : a.world.2 ++ [arg] = b.world.2 ++ [arg] := by rw [alike.world]
    obtain ⟨same, after⟩ := (apart arg).alike inner
    exact ⟨same, Prod.ext after.world record, after.slots, after.shared⟩
  case kept =>
    intro a
    exact (apart arg).kept a.forget

/-- What shows of a call once it is over. -/
structure Sight (World Ty R Err : Type) where
  answer : Except Err (CacheAnswer R)
  world : World
  slots : SlotTable Ty
  len : Nat

variable [DecidableEq Ty]

/-- What shows of requests to the shared cache at a place. -/
def SharedCache.sights (host : Host World Arg Val Ty R Err) (place : Nat) :
    List (CacheRequest Arg R) → Ambient World Ty R → List (Sight World Ty R Err)
  | [], _ => []
  | request :: requests, ambient =>
    let (answer, after) := (serve host place request).eval ambient
    ⟨answer, after.world, after.slots, (after.sharedAt place).len⟩ ::
      sights host place requests after

namespace Cache

/-- Answers a request from a plain cache. -/
def serve (cache : Cache Ty R) (host : Host World Arg Val Ty R Err) (ambient : Ambient World Ty R) :
    CacheRequest Arg R → Except Err (CacheAnswer R) × Cache Ty R × Ambient World Ty R
  | .find call =>
    let (answer, after) := (cache.lookup host call).eval ambient
    (answer.map .found, cache, after)
  | .add call result =>
    match (cache.insert host call result).eval ambient with
    | (.ok (outcome, filed), after) => (.ok (.filed outcome), filed, after)
    | (.error ⟨cause, left⟩, after) => (.error cause, left, after)

/-- What shows of requests to a plain cache. -/
def sights (host : Host World Arg Val Ty R Err) :
    List (CacheRequest Arg R) → Cache Ty R → Ambient World Ty R → List (Sight World Ty R Err)
  | [], _, _ => []
  | request :: requests, cache, ambient =>
    let (answer, later, after) := cache.serve host ambient request
    ⟨answer, after.world, after.slots, later.len⟩ :: sights host requests later after

section Serve

variable {host : Host World Arg Val Ty R Err} {ambient after : Ambient World Ty R}
variable {cache : Cache Ty R} {request : CacheRequest Arg R}

theorem serve_of_refused {reason : DropReason}
    (shape : (request.call.shape maxArity).refusal? = some reason) :
    cache.serve host ambient request = (.ok (request.refused reason), cache, ambient) := by
  have cases_of_shape := CallShape.refused_cases shape
  cases request with
  | find call =>
    simp only [serve, lookup, CacheRequest.call] at cases_of_shape ⊢
    rcases cases_of_shape with ⟨form, rfl⟩ | ⟨arity, form, rfl⟩
    · rw [form]
      rfl
    · rw [form]
      rfl
  | add call result =>
    simp only [serve, insert, CacheRequest.call] at cases_of_shape ⊢
    rcases cases_of_shape with ⟨form, rfl⟩ | ⟨arity, form, rfl⟩
    · rw [form]
      rfl
    · rw [form]
      rfl

theorem serve_of_full {call : Capture Arg} {result : R}
    (accepted : (call.shape maxArity).refusal? = none) (full : cache.isFull call.arity = true) :
    cache.serve host ambient (.add call result) =
      (.ok (.filed (.dropped .bucketFull)), cache, ambient.note (.bucketFull call.arity)) := by
  rcases Capture.accepted_cases accepted with form | form
  · rw [Capture.arity, Capture.positional_of_zeroArity form] at full
    cases full
  · simp only [serve, eval_insert_of_full host result ambient form full]

theorem serve_of_unread {cause : Err} (reads : request.reads cache = true)
    (read : (extract host request.call.positional).eval ambient = (.error cause, after)) :
    cache.serve host ambient request = (.error cause, cache, after) := by
  obtain ⟨accepted, room⟩ := (request.reads_iff cache).mp reads
  rcases Capture.accepted_cases accepted with form | form
  · rw [Capture.positional_of_zeroArity form, eval_extract_nil] at read
    cases read
  · cases request with
    | find call =>
      have looked : (cache.lookup host call).eval ambient = (.error cause, after) :=
        eval_lookup_of_unread cache form read
      simp only [serve, looked]
      rfl
    | add call result =>
      have filed : (cache.insert host call result).eval ambient =
          (.error ⟨cause, cache⟩, after) :=
        eval_insert_of_unread result form room read
      simp only [serve, filed]

theorem serve_of_read {print : Fingerprint Ty} (reads : request.reads cache = true)
    (read : (extract host request.call.positional).eval ambient = (.ok print, after))
    (place : Nat) : ∃ later, after.Alike place later ∧
      cache.serve host ambient request =
        (.ok (cache.access print request).1, (cache.access print request).2, later) := by
  obtain ⟨accepted, room⟩ := (request.reads_iff cache).mp reads
  rcases Capture.accepted_cases accepted with form | form
  · rw [Capture.positional_of_zeroArity form, eval_extract_nil] at read
    cases read
    refine ⟨ambient, .refl place ambient, ?_⟩
    cases request with
    | find call =>
      have looked : (cache.lookup host call).eval ambient = (.ok cache.zeroArity, ambient) :=
        eval_lookup_of_zeroArity cache host ambient form
      simp only [serve, looked]
      rfl
    | add call result =>
      have filed : (cache.insert host call result).eval ambient =
          (.ok (.zeroArity, cache.setZeroArity result), ambient) :=
        eval_insert_of_zeroArity cache host result ambient form
      simp only [serve, filed]
      rfl
  · cases request with
    | find call =>
      have arity_pos : print.arity ≠ 0 := by
        have pos := (Capture.arity_of_positional form).2.1
        rw [arity_of_extract_positional form read]
        omega
      have looked : (cache.lookup host call).eval ambient = (.ok (cache.get print), _) :=
        eval_lookup_of_read cache form read
      refine ⟨_, .note place after (.lookup call.arity (cache.get print).isSome), ?_⟩
      simp only [serve, looked, access, answer, if_neg arity_pos]
      rfl
    | add call result =>
      have filed : (cache.insert host call result).eval ambient =
          (.ok (cache.insertFingerprint print result), after) :=
        eval_insert_of_read result form room read
      refine ⟨after, .refl place after, ?_⟩
      simp only [serve, filed, access]

end Serve

end Cache

/-- An access to a shared cache shows in nothing but that cache and the log. -/
theorem Ambient.alike_access (ambient : Ambient World Ty R) (place : Nat) (print : Fingerprint Ty)
    (request : CacheRequest Arg R) :
    (ambient.access place print request).2.Alike place ambient := by
  cases request with
  | find call => exact .refl place ambient
  | add call result =>
    have set : ∀ shared, (ambient.setSharedAt place shared).Alike place ambient :=
      fun shared => ⟨rfl, rfl, fun other apart => List.getElem?_set_ne (Ne.symm apart)⟩
    simp only [access]
    split_ifs
    · exact (Alike.note place _ _).symm.trans (set _)
    · exact set _

/-- A plain cache, in a state of its own, is what the shared cache at a place stands for. -/
structure Ambient.Mirrors (place : Nat) (a : Ambient World Ty R) (cache : Cache Ty R)
    (b : Ambient World Ty R) : Prop where
  alike : a.Alike place b
  here : place < a.shared.length
  cache_eq : a.cacheAt place = cache

namespace Ambient.Mirrors

variable {host : Host World Arg Val Ty R Err} {place : Nat} {a b a' b' : Ambient World Ty R}
variable {cache : Cache Ty R}

omit [DecidableEq Ty] in
theorem of_kept (mirrors : a.Mirrors place cache b) (kept : a'.shared[place]? = a.shared[place]?)
    (alike : a'.Alike place b') : a'.Mirrors place cache b' where
  alike := alike
  here := by
    have here := List.getElem?_eq_getElem mirrors.here
    exact (List.getElem?_eq_some_iff.mp (kept.trans here)).1
  cache_eq := by rw [← mirrors.cache_eq, cacheAt, cacheAt, sharedAt, sharedAt, kept]

/-- One request keeps a plain cache in step with a shared one. -/
theorem serve (apart : host.Apart place) (mirrors : a.Mirrors place cache b)
    (request : CacheRequest Arg R) :
    let shared := (SharedCache.serve host place request).eval a
    let plain := cache.serve host b request
    shared.1 = plain.1 ∧ shared.2.Mirrors place plain.2.1 plain.2.2 := by
  obtain rfl := mirrors.cache_eq
  intro shared plain
  have way : SharedCache.Serving host place request a shared :=
    SharedCache.serving host place request a
  have extracted := (apart.extract request.call.positional).alike mirrors.alike
  have kept := (apart.extract request.call.positional).kept a
  rcases readB : (extract host request.call.positional).eval b with ⟨answer, afterB⟩
  rw [readB] at extracted
  generalize shared = served at way ⊢
  cases way with
  | refused shape =>
    have same : plain = _ := Cache.serve_of_refused shape
    rw [same]
    exact ⟨rfl, mirrors⟩
  | @full call result add shape full =>
    subst add
    have same : plain = _ := Cache.serve_of_full shape full
    rw [same]
    exact ⟨rfl, mirrors.of_kept rfl (mirrors.alike.trans (.note place b _))⟩
  | @unread cause after reads read =>
    rw [read] at extracted kept
    obtain ⟨rfl, alike⟩ := extracted
    have same : plain = _ := Cache.serve_of_unread reads readB
    rw [same]
    exact ⟨rfl, mirrors.of_kept kept alike⟩
  | @read print after reads read =>
    rw [read] at extracted kept
    obtain ⟨rfl, alike⟩ := extracted
    -- By now both sides have read the same, and the shared cache still is what the plain one is.
    obtain ⟨later, near, same⟩ := Cache.serve_of_read reads readB place
    have same : plain = _ := same
    have found := mirrors.of_kept kept (alike.trans near)
    rw [same, Ambient.access_fst, found.cache_eq]
    refine ⟨rfl, (alike_access after place print request).trans found.alike, ?_, ?_⟩
    · rw [length_access]
      exact found.here
    · rw [cacheAt_access _ _ _ found.here, found.cache_eq]

/-- In step, a shared and a plain cache show the same in any sequence of requests. -/
theorem sights (apart : host.Apart place) (mirrors : a.Mirrors place cache b)
    (requests : List (CacheRequest Arg R)) :
    SharedCache.sights host place requests a = Cache.sights host requests cache b := by
  induction requests generalizing a cache b with
  | nil => rfl
  | cons request requests ih =>
    obtain ⟨same, after⟩ := mirrors.serve apart request
    have length : ((SharedCache.serve host place request).eval a).2.cacheAt place = _ :=
      after.cache_eq
    simp only [SharedCache.sights, Cache.sights]
    rw [same, after.alike.world, after.alike.slots, SharedCache.len_eq, ih after]
    rw [cacheAt] at length
    rw [length]

end Ambient.Mirrors

/-- A shared cache answers any requests as a plain one does that is there from the start, if
reading arguments stays clear of it. After each request the worlds are the same, with all that
was read on record, and so are the slots and the lengths. -/
theorem SharedCache.sights_eq {host : Host World Arg Val Ty R Err} {place : Nat}
    (apart : host.Apart place) {policy : InsertPolicy} {start : Ambient (World × List Arg) Ty R}
    (fresh : start.shared[place]? = some (SharedCache.empty policy))
    (requests : List (CacheRequest Arg R)) :
    SharedCache.sights host.recorded place requests start =
      Cache.sights host.recorded requests (Cache.empty policy) start := by
  have mirrors : start.Mirrors place (Cache.empty policy) start :=
    ⟨.refl place start, (List.getElem?_eq_some_iff.mp fresh).1, Ambient.cacheAt_of_fresh fresh⟩
  exact mirrors.sights apart.recorded requests

end DispatchCache

namespace DispatchCache.Flaky

/-- Readings are counted. Every third one fails, and the others alternate between two types. -/
def host : Host Nat String Nat Nat String String where
  isNativeStr _ _ := false
  isNativeInt _ _ := false
  isNativeNum _ _ := false
  ownType _ _ := some 0
  isWritable _ _ := true
  typeOf _ type := type
  isTypeObject _ _ := false
  isNativeRef _ := false
  decontainerize arg := do
    let count ← Run.world
    modify fun ambient => { ambient with world := count + 1 }
    if count % 3 = 2 then throw arg else return count % 2

theorem apart_host (place : Nat) : host.Apart place := by
  intro arg
  apply Run.Apart.world.bind
  intro count
  apply (Run.Apart.setWorld (count + 1)).bind
  intro _
  split_ifs
  · exact .throw arg
  · exact .pure _

/-- The failing add is seen by neither cache, and what it read is on the record of both. -/
theorem sights_agree :
    let requests : List (CacheRequest String String) :=
      [.find ⟨["x"], []⟩, .add ⟨["y"], []⟩ "first", .add ⟨["z"], []⟩ "second",
        .add ⟨[], []⟩ "third", .find ⟨["w"], []⟩]
    let start : Ambient (Nat × List String) Nat String :=
      { world := (0, []), shared := [.empty .skipDuplicates] }
    let sights := SharedCache.sights host.recorded 0 requests start
    sights = Cache.sights host.recorded requests (Cache.empty .skipDuplicates) start ∧
      sights.map (fun sight => sight.answer.toOption) = [some (.found none),
        some (.filed .stored), none, some (.filed .zeroArity), some (.found (some "first"))] ∧
      sights.map Sight.len = [0, 1, 1, 2, 2] ∧
      sights.map (fun sight => sight.world.2) =
        [["x"], ["x", "y"], ["x", "y", "z"], ["x", "y", "z"], ["x", "y", "z", "w"]] := by
  intro requests start sights
  exact ⟨SharedCache.sights_eq (apart_host 0) rfl requests, by decide, by decide, by decide⟩

end DispatchCache.Flaky
