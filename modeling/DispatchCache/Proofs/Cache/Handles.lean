import DispatchCache.Proofs.Cache.Answers
import DispatchCache.Proofs.Cache.Reachable
import DispatchCache.Declared

/-! # Adding to a handle and finding in it

A result that is added for one call shows in the lookups of exactly the calls that it stands for.
There it is the answer if there was none and the bucket had room, and the slot for calls without
arguments always has the last result. The arguments of a call are read anew each time, and slots
may be made by that. So the laws are those of a cache, carried over to calls by what their
arguments are seen as. -/

namespace DispatchCache

variable {World Arg Val Ty R Err : Type} [DecidableEq Ty]

namespace Cache

variable {cache : Cache Ty R} {print other : Fingerprint Ty}

/-- What a cache has once a result is filed for a call that reads as a fingerprint. -/
def fileFor (cache : Cache Ty R) (call : Capture Arg) (print : Fingerprint Ty) (result : R) :
    Cache Ty R :=
  if (call.shape maxArity).isCacheable then (cache.insertFingerprint print result).2 else cache

/-- What a cache answers for a call that reads as a fingerprint. -/
def answerFor (cache : Cache Ty R) (call : Capture Arg) (print : Fingerprint Ty) : Option R :=
  if (call.shape maxArity).isCacheable then cache.answer print else none

section Calls

variable (cache : Cache Ty R) (result : R) {call call' : Capture Arg}

theorem answerFor_fileFor (arity : print.arity = call.arity) :
    (cache.fileFor call print result).answerFor call' other =
      if (call.hasNamed = false ∧ call.arity ≤ maxArity) ∧
          (call'.hasNamed = false ∧ call'.arity ≤ maxArity) ∧ print.agrees other = true then
        if call.arity = 0 then some result
        else (cache.answerFor call' other).or
          (if cache.bucketLen call.arity < maxPerArity then some result else none)
      else cache.answerFor call' other := by
  simp only [← Capture.isCacheable_shape_iff]
  cases accepted' : (call'.shape maxArity).isCacheable with
  | false => simp [answerFor, accepted']
  | true =>
    cases accepted : (call.shape maxArity).isCacheable with
    | false => simp [fileFor, accepted]
    | true =>
      simp only [answerFor, fileFor, accepted, accepted', true_and, if_true]
      cases agrees : print.agrees other with
      | false => exact cache.answer_insertFingerprint_of_apart result agrees
      | true =>
        have narrow := arity ▸ (Capture.isCacheable_shape_iff.mp accepted).2
        rw [cache.answer_insertFingerprint_of_agrees result agrees narrow, arity, if_pos rfl]

theorem answerFor_fileFor_twice (arity : print.arity = call.arity) :
    ((cache.fileFor call print result).fileFor call print result).answerFor call' other =
      (cache.fileFor call print result).answerFor call' other := by
  cases accepted : (call.shape maxArity).isCacheable with
  | false => simp [fileFor, accepted]
  | true =>
    have narrow := arity ▸ (Capture.isCacheable_shape_iff.mp accepted).2
    simp only [fileFor, accepted, if_true, answerFor,
      cache.answer_insertFingerprint_twice result narrow]

variable {cache}

theorem fileFor_of_full (full : cache.isFull call.arity = true) (arity : print.arity = call.arity) :
    cache.fileFor call print result = cache := by
  cases accepted : (call.shape maxArity).isCacheable with
  | false => simp [fileFor, accepted]
  | true =>
    have narrow := arity ▸ (Capture.isCacheable_shape_iff.mp accepted).2
    rw [fileFor, if_pos accepted, insertFingerprint_of_full (arity ▸ full) narrow]

theorem GivenIn.fileFor {table : SlotTable Ty} (given : cache.GivenIn table)
    (keys : ∀ key ∈ print.keys, key.GivenIn table) :
    (cache.fileFor call print result).GivenIn table := by
  rw [Cache.fileFor]
  split_ifs
  · exact given.insertFingerprint keys result
  · exact given

/-- Slots that are made later change no answer. -/
theorem answerFor_key_of_given {table later later' : SlotTable Ty} (given : cache.GivenIn table)
    (grown : table.made <+: later.made) (grown' : table.made <+: later'.made)
    (views : List (View Ty)) :
    cache.answerFor call ⟨views.map (View.key later)⟩ =
      cache.answerFor call ⟨views.map (View.key later')⟩ := by
  have arity : (⟨views.map (View.key later)⟩ : Fingerprint Ty).arity =
      (⟨views.map (View.key later')⟩ : Fingerprint Ty).arity := by simp [Fingerprint.arity]
  rw [answerFor, answerFor, answer, answer, arity, get_key_of_given given grown grown' views]

end Calls

end Cache

section Handle

variable {host : Host World Arg Val Ty R Err}
variable {handle : Option (Cache Ty R)} {call other : Capture Arg} {result : R}
variable {start stop after : Ambient World Ty R} {views : List (View Ty)}

/-- What is found for a call depends on what its arguments are seen as. -/
theorem eval_find_of_sees (handle : Option (Cache Ty R))
    (sees : host.Sees start call.positional views stop) :
    ((find host handle call).eval start).1 =
      .ok ((handle.getD (Cache.empty default)).answerFor call
        ⟨views.map (View.key stop.slots)⟩) := by
  cases handle with
  | none =>
    rw [Option.getD_none, Cache.answerFor, Cache.answer_empty, ite_self]
    rfl
  | some cache =>
    change ((cache.lookup host call).eval start).1 = _
    rw [Cache.answerFor]
    rcases call.shape_cases with shape | shape | ⟨arity, shape⟩
    · rw [Cache.eval_lookup_of_uncacheable cache host start shape, shape]
      rfl
    · rw [Capture.positional_of_zeroArity shape] at sees
      cases sees
      rw [Cache.eval_lookup_of_zeroArity cache host start shape, shape]
      rfl
    · have read := sees.eval_extract
      have keys : (⟨views.map (View.key stop.slots)⟩ : Fingerprint Ty).arity ≠ 0 := by
        rw [arity_of_extract_positional shape read]
        exact Nat.ne_of_gt (Capture.arity_of_positional shape).2.1
      rw [Cache.eval_lookup_of_read cache shape read, shape, Cache.answer, if_neg keys]
      rfl

/-- Adding a result for a call whose arguments can be read succeeds. Unless nothing is filed, the
slots that the call needs are made by then. -/
theorem exists_eval_add_of_sees (handle : Option (Cache Ty R)) (result : R)
    (sees : host.Sees start call.positional views stop) :
    let held := handle.getD (Cache.empty default)
    ∃ after,
      (add host handle call result).eval start =
        (.ok (held.fileFor call ⟨views.map (View.key stop.slots)⟩ result), after) ∧
      start.Grows after ∧
      (stop.Grows after ∨ ∀ print : Fingerprint Ty, print.arity = call.arity →
        held.fileFor call print result = held) := by
  intro held
  rcases call.shape_cases with shape | shape | ⟨arity, shape⟩
  · obtain ⟨reason, kept⟩ := held.eval_insert_of_uncacheable host result start shape
    have nothing : ∀ print, held.fileFor call print result = held := by
      intro print
      rw [Cache.fileFor, shape]
      rfl
    refine ⟨start, ?_, List.prefix_rfl, .inr fun print _ => nothing print⟩
    rw [eval_add_of_insert kept, nothing]
  · rw [Capture.positional_of_zeroArity shape] at sees
    cases sees
    refine ⟨start, ?_, List.prefix_rfl, .inl List.prefix_rfl⟩
    rw [eval_add_of_insert (held.eval_insert_of_zeroArity host result start shape), Cache.fileFor,
      shape]
    rfl
  · have read := sees.eval_extract
    obtain ⟨rfl, -, -⟩ := Capture.arity_of_positional shape
    cases full : held.isFull call.arity with
    | true =>
      have nothing : ∀ print : Fingerprint Ty, print.arity = call.arity →
          held.fileFor call print result = held := fun print => Cache.fileFor_of_full result full
      refine ⟨start.note (.bucketFull call.arity), ?_, List.prefix_rfl, .inr nothing⟩
      rw [eval_add_of_insert (Cache.eval_insert_of_full host result start shape full),
        nothing _ (arity_of_extract read)]
    | false =>
      refine ⟨stop, ?_, sees.grows, .inl List.prefix_rfl⟩
      rw [eval_add_of_insert (Cache.eval_insert_of_read result shape full read), Cache.fileFor,
        shape]
      rfl

section Made

variable {held : Cache Ty R} {again reread : Ambient World Ty R}
variable (read : host.Sees start call.positional views stop)
variable (made : stop.Grows after ∨ ∀ print : Fingerprint Ty, print.arity = call.arity →
  held.fileFor call print result = held)

include read made

/-- Without the slots of the call nothing is filed for it, so what is filed has been given out. -/
theorem givenIn_of_made (given : held.GivenIn after.slots) :
    (held.fileFor call ⟨views.map (View.key stop.slots)⟩ result).GivenIn after.slots := by
  rcases made with made | nothing
  · exact given.fileFor result fun key isKey => (read.givenIn key isKey).of_grown made
  · rwa [nothing _ (arity_of_extract read.eval_extract)]

/-- A call that is seen as before is filed as before, or not at all as before. -/
theorem answerFor_of_made (kept : after.Grows again)
    (reads : host.Sees again call.positional views reread) (print : Fingerprint Ty) :
    ((held.fileFor call ⟨views.map (View.key stop.slots)⟩ result).fileFor call
        ⟨views.map (View.key reread.slots)⟩ result).answerFor other print =
      (held.fileFor call ⟨views.map (View.key stop.slots)⟩ result).answerFor other print := by
  have arity := arity_of_extract read.eval_extract
  rcases made with made | nothing
  · rw [read.map_key_of_grown (made.trans (kept.trans reads.grows))]
    exact held.answerFor_fileFor_twice result arity
  · rw [nothing _ arity, nothing _ (arity_of_extract reads.eval_extract)]

end Made

/-- A result is added for a call, and another call, or the same, is looked up before and after it.
Slots are made by these very calls, but the arguments are seen as the same throughout. Where both
calls are nameless and not too wide, and their fingerprints agree, the result is what is found from
then on if nothing was and the bucket had room, and in any case for calls without arguments. For all
other calls nothing changes, and adding the result once more changes nothing for any call. -/
theorem exists_find_of_add {table : SlotTable Ty} {before looked : Ambient World Ty R}
    {views' : List (View Ty)} (reachable : ∀ cache ∈ handle, cache.Reachable table)
    (known : table.made <+: before.slots.made) (known' : table.made <+: start.slots.made)
    (seen : host.Sees before other.positional views' looked)
    (read : host.Sees start call.positional views stop) (result : R) :
    let held := handle.getD (Cache.empty default)
    ∃ print answer filed after,
      (extract host call.positional).eval start = (.ok print, stop) ∧
      ((find host handle other).eval before).1 = .ok answer ∧
      (add host handle call result).eval start = (.ok filed, after) ∧
      ∀ later found, after.Grows later → host.Sees later other.positional views' found →
        ∃ print', (extract host other.positional).eval later = (.ok print', found) ∧
          ((find host (some filed) other).eval later).1 = .ok
            (if (call.hasNamed = false ∧ call.arity ≤ maxArity) ∧
                (other.hasNamed = false ∧ other.arity ≤ maxArity) ∧ print.agrees print' = true then
              if call.arity = 0 then some result
              else answer.or
                (if held.bucketLen call.arity < maxPerArity then some result else none)
            else answer) ∧
          ∀ again reread, after.Grows again → host.Sees again call.positional views reread →
            ∃ filed' after', (add host (some filed) call result).eval again = (.ok filed', after') ∧
              ∀ latest refound, after'.Grows latest →
                host.Sees latest other.positional views' refound →
                ((find host (some filed') other).eval latest).1 =
                  ((find host (some filed) other).eval later).1 := by
  intro held
  have given : held.GivenIn table := Cache.givenIn_getD reachable
  obtain ⟨after, added, grown, made⟩ := exists_eval_add_of_sees handle result read
  have filed_given := givenIn_of_made read made (given.of_grown (known'.trans grown))
  refine ⟨_, _, _, after, read.eval_extract, eval_find_of_sees handle seen, added, ?_⟩
  intro later found kept seen'
  have stable : held.answerFor other ⟨views'.map (View.key looked.slots)⟩ =
      held.answerFor other ⟨views'.map (View.key found.slots)⟩ :=
    Cache.answerFor_key_of_given given (known.trans seen.grows)
      ((known'.trans grown).trans (kept.trans seen'.grows)) views'
  refine ⟨_, seen'.eval_extract, ?once, ?twice⟩
  case once =>
    rw [eval_find_of_sees _ seen', Option.getD_some, stable]
    exact congrArg _ (held.answerFor_fileFor result (arity_of_extract read.eval_extract))
  case twice =>
    intro again reread kept' reads
    obtain ⟨after', added', grown', -⟩ := exists_eval_add_of_sees _ result reads
    refine ⟨_, after', added', ?_⟩
    intro latest refound kept'' seen''
    rw [eval_find_of_sees _ seen'', eval_find_of_sees _ seen', Option.getD_some, Option.getD_some,
      answerFor_of_made read made kept' reads]
    exact congrArg _ (Cache.answerFor_key_of_given filed_given
      (kept'.trans (grown'.trans (kept''.trans seen''.grows))) (kept.trans seen'.grows) views')

/-- A call with a writable container finds nothing, is added, and finds its result, although the
slot of its key is made in between. -/
theorem declared_find_of_add :
    let host : Host Declared.World Declared.Arg Declared.Val Nat String _ := Declared.host []
    let call : Capture Declared.Arg :=
      ⟨[{ id := 7, writable := true, own := some 0, held := some 3 }], []⟩
    let start : Ambient Declared.World Nat String := { world := [] }
    ∃ filed after, ((find host none call).eval start).1 = .ok none ∧
      (add host none call "resolved").eval start = (.ok filed, after) ∧
      after.slots.made = [(3, .inst)] ∧
      ((find host (some filed) call).eval after).1 = .ok (some "resolved") := by
  intro host call start
  have reachable : ∀ cache ∈ (none : Option (Cache Nat String)), cache.Reachable {} := nofun
  have seen : host.Sees start call.positional [.writable 3 false] _ :=
    .cons rfl List.prefix_rfl (.nil _)
  obtain ⟨print, answer, filed, after, read, found, added, law⟩ :=
    exists_find_of_add reachable List.prefix_rfl List.prefix_rfl seen seen "resolved"
  cases read
  cases found
  cases added
  obtain ⟨print', read', answered, -⟩ := law _ _ List.prefix_rfl
    (.cons rfl List.prefix_rfl (.nil _))
  cases read'
  exact ⟨_, _, rfl, rfl, rfl, answered⟩

end Handle

end DispatchCache
