import DispatchCache.Proofs.CallSite.Course
import DispatchCache.Declared

/-! # What a failing dispatch leaves behind

A dispatch that fails files nothing. A site that has a cache keeps it as it is. A site without
one stays without, except when its call was resolved and the arguments could not be read for
the insert: then an empty cache has been opened. -/

namespace DispatchCache.CallSite

variable {World Arg Val Ty R Err Fail : Type} [DecidableEq Ty]

omit [DecidableEq Ty] in
/-- Opening the cache is visible exactly where there is none. -/
theorem open_eq_self_iff (site : CallSite Ty R) :
    ({ site with cache := some site.opened } : CallSite Ty R) = site ↔
      site.cache.isSome = true := by
  rcases site with ⟨_ | cache, policy⟩
  · simp
  · simp [opened]

/-- A dispatch that fails leaves its site alone unless it fails in reading arguments and the
site has no cache. Then the call was resolved, its arguments were read for the insert alone,
and the site has an empty cache afterwards. -/
theorem site_dispatch_of_error (site : CallSite Ty R) (host : Host World Arg Val Ty R Err)
    (resolve : Resolver World Arg Ty R Fail) (call : Capture Arg) (ambient : Ambient World Ty R)
    {failure : DispatchError Err Fail}
    (failed : ((site.dispatch host resolve call).run ambient).1.answer = .error failure) :
    let after := ((site.dispatch host resolve call).run ambient).1.site
    (after = site ↔ site.cache.isSome = true ∨ ∃ cause, failure = .resolve cause) ∧
    (after ≠ site →
      after = { site with cache := some (Cache.empty site.policy) } ∧
      ∃ arity result mid cause, call.shape maxArity = .positional arity ∧
        resolving resolve call ambient = (.ok result, mid) ∧
        ((extract host call.positional).eval mid).1 = .error cause ∧
        failure = .decontainerize cause) := by
  have follows := course site host resolve call ambient
  generalize (site.dispatch host resolve call).run ambient = done at failed follows ⊢
  intro after
  cases follows with
  | unread looked =>
    -- without a cache nothing is read for the lookup
    have present : site.cache.isSome = true := by
      rcases callLookup_of_looking looked with ⟨-, found, -⟩ | ⟨cache, present, -⟩
      · cases found
      · rw [present, Option.isSome_some]
    exact ⟨⟨fun _ => .inl present, fun _ => rfl⟩, fun changed => absurd rfl changed⟩
  | hit looked => cases failed
  | unresolved looked resolved =>
    cases failed
    exact ⟨⟨fun _ => .inr ⟨_, rfl⟩, fun _ => rfl⟩, fun changed => absurd rfl changed⟩
  | @unfiled seen result mid cause _ looked resolved filed =>
    cases failed
    refine ⟨?_, fun changed => ?_⟩
    · rw [show after = site ↔ site.cache.isSome = true from open_eq_self_iff site]
      simp
    · have absent : ¬ site.cache.isSome = true := mt (open_eq_self_iff site).mpr changed
      rcases callLookup_of_looking looked with ⟨none, -, rfl⟩ | ⟨cache, present, -⟩
      · refine ⟨?_, ?_⟩
        · show ({ site with cache := some site.opened } : CallSite Ty R) = _
          rw [opened, none, Option.getD_none]
        · cases callInsert_of_filing filed with
          | @unread arity _ _ shape room read =>
            exact ⟨arity, result, mid, cause, shape, resolved, by rw [read], rfl⟩
      · exact absurd (by rw [present, Option.isSome_some]) absent
  | filed looked resolved filed => cases failed

/-- The first call of a site, resolved but with an argument that cannot be read. -/
theorem new_dispatch_of_unreadable :
    let call : Capture Declared.Arg := ⟨[{ id := 7, own := some 0 }], []⟩
    let resolve : Resolver Declared.World Declared.Arg Nat String Empty := fun _ => pure "resolved"
    let ambient : Ambient Declared.World Nat String := { world := [] }
    let done :=
      ((CallSite.new .allowDuplicates).dispatch (Declared.host []) resolve call).run ambient
    done.1.answer = .error (.decontainerize ⟨7⟩) ∧
    done.1.site ≠ CallSite.new .allowDuplicates ∧
    done.1.site = ⟨some (Cache.empty .allowDuplicates), .allowDuplicates⟩ := by
  intro call resolve ambient done
  have failed : done.1.answer = .error (.decontainerize ⟨7⟩) := rfl
  have condition := site_dispatch_of_error (CallSite.new .allowDuplicates) (Declared.host [])
    resolve call ambient failed
  have changed : done.1.site ≠ CallSite.new .allowDuplicates := by
    intro same
    rcases condition.1.mp same with present | ⟨cause, resolved⟩
    · cases present
    · cases resolved
  exact ⟨failed, changed, (condition.2 changed).1⟩

/-- A failing dispatch may open the cache of its site. -/
theorem failing_dispatch_opens_cache :
    ¬ ∀ (site : CallSite Nat String) (call : Capture Declared.Arg)
      (resolve : Resolver Declared.World Declared.Arg Nat String Empty)
      (ambient : Ambient Declared.World Nat String) (failure : DispatchError _ Empty),
      ((site.dispatch (Declared.host []) resolve call).run ambient).1.answer = .error failure →
      ((site.dispatch (Declared.host []) resolve call).run ambient).1.site.cache = site.cache := by
  intro kept
  have absent := kept (CallSite.new .allowDuplicates) ⟨[{ id := 7, own := some 0 }], []⟩
    (fun _ => pure "resolved") { world := [] } (.decontainerize ⟨7⟩) rfl
  cases absent

end DispatchCache.CallSite
