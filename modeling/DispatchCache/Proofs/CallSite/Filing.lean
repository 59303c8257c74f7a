import DispatchCache.Proofs.CallSite.Course
import DispatchCache.Declared
import DispatchCache.Reference.Model

/-! # What a resolved result is filed under

A dispatch reads its arguments once for the lookup and once for the insert, and in between
the call is resolved. A result is filed under what was read last. That is the fingerprint
which was looked up exactly when the second reading yields it again. -/

namespace DispatchCache.CallSite

variable {World Arg Val Ty R Err Fail : Type} [DecidableEq Ty]

/-- Of what a dispatch counts as inserted, all but a result for no arguments is stored. -/
theorem stored_of_tally {outcome : InsertOutcome} (other : outcome ≠ .zeroArity)
    (tally : Counters.miss + .ofOutcome outcome = Counters.miss + .ofOutcome .stored) :
    outcome = .stored := by
  cases outcome with
  | stored => rfl
  | zeroArity => exact absurd rfl other
  | duplicate => exact absurd tally (by decide)
  | dropped reason =>
    cases reason with
    | namedArguments => exact absurd tally (by decide)
    | tooManyArguments => exact absurd tally (by decide)
    | bucketFull => exact absurd tally (by decide)

section Filing

variable {host : Host World Arg Val Ty R Err} {call : Capture Arg} {arity : Nat}
variable {ambient after : Ambient World Ty R} {cache filed : Cache Ty R} {result : R}

/-- An insert that stores has read the arguments, and what it read is the new entry. -/
theorem exists_entry_of_stored (shape : call.shape maxArity = .positional arity)
    (stored : cache.CallInsert host call result ambient (.ok (.stored, filed), after)) :
    ∃ print, (extract host call.positional).eval ambient = (.ok print, after) ∧
      cache.insertFingerprint print result = (.stored, filed) ∧
      filed = cache.setBucket arity (cache.bucket arity ++ [⟨print, result⟩]) := by
  cases stored with
  | @read arity' print _ _ shape' room read inserted =>
    obtain rfl : arity' = arity := CallShape.positional.inj (shape'.symm.trans shape)
    refine ⟨print, read, inserted, ?_⟩
    have way := cache.insertion print result
    rw [inserted] at way
    cases way with
    | stored pos le room fresh => rw [arity_of_extract_positional shape read]

/-- A result for arguments never goes to the slot for none. -/
theorem outcome_ne_zeroArity {outcome : InsertOutcome}
    (shape : call.shape maxArity = .positional arity)
    (done : cache.CallInsert host call result ambient (.ok (outcome, filed), after)) :
    outcome ≠ .zeroArity := by
  rintro rfl
  cases done with
  | zeroArity zero =>
    rw [zero] at shape
    cases shape
  | @read _ print _ _ _ room read inserted =>
    have truthful := cache.truthful_insertFingerprint print result
    rw [inserted] at truthful
    have zero := truthful.zeroArity.mp rfl
    rw [arity_of_extract_positional shape read] at zero
    have positive := (Capture.arity_of_positional shape).2.1
    omega

end Filing

/-- A dispatch that misses under the fingerprint `looked` and stores: its result is filed, as
the last entry, under what the arguments read as once the call is resolved, and is from then
on the answer for all that agrees with that and had none. -/
theorem dispatch_of_stored (site : CallSite Ty R) (host : Host World Arg Val Ty R Err)
    (resolve : Resolver World Arg Ty R Fail) (call : Capture Arg) (ambient : Ambient World Ty R)
    {cache : Cache Ty R} {arity : Nat} {looked : Fingerprint Ty} {seen : Ambient World Ty R}
    (present : site.cache = some cache) (shape : call.shape maxArity = .positional arity)
    (read : (extract host call.positional).eval ambient = (.ok looked, seen))
    (stored : ((site.dispatch host resolve call).run ambient).1.tally =
      .miss + .ofOutcome .stored) :
    ∃ result mid filed after,
      cache.get looked = none ∧
      resolving resolve call (seen.note (.lookup arity false)) = (.ok result, mid) ∧
      (extract host call.positional).eval mid = (.ok filed, after) ∧
      (site.dispatch host resolve call).run ambient =
        (⟨.ok result,
          { site with
            cache := some (cache.setBucket arity (cache.bucket arity ++ [⟨filed, result⟩])) },
          .miss + .ofOutcome .stored⟩, after) ∧
      (filed = looked ↔ ((extract host call.positional).eval mid).1 = .ok looked) ∧
      ∀ other, (cache.setBucket arity (cache.bucket arity ++ [⟨filed, result⟩])).get other =
        (cache.get other).or (if filed.agrees other = true then some result else none) := by
  have follows := course site host resolve call ambient
  have looking_eq : site.looking host call ambient =
      (.ok (cache.get looked), seen.note (.lookup arity (cache.get looked).isSome)) := by
    rw [looking, present]
    exact Cache.eval_lookup_of_read cache shape read
  generalize (site.dispatch host resolve call).run ambient = done at stored follows ⊢
  cases follows with
  | unread found => cases stored
  | hit found => cases stored
  | unresolved found resolved => cases stored
  | unfiled found resolved failed => cases stored
  | @filed before result mid outcome new after found resolved done =>
    rw [looking_eq] at found
    have missed : cache.get looked = none := by
      injection found with answer
      injection answer
    have before_eq : seen.note (.lookup arity (cache.get looked).isSome) = before :=
      congrArg Prod.snd found
    rw [missed] at before_eq
    have way := callInsert_of_filing done
    rw [opened_of_present present] at way
    obtain rfl := stored_of_tally (outcome_ne_zeroArity shape way) stored
    obtain ⟨print, read_again, inserted, rfl⟩ := exists_entry_of_stored shape way
    refine ⟨result, mid, print, after, missed, ?_, read_again, rfl, ?_, fun other => ?_⟩
    · rw [← resolved, ← before_eq]
      rfl
    · rw [read_again]
      exact ⟨fun same => by rw [same], fun same => Except.ok.inj same⟩
    · have answers := Cache.get_insertFingerprint cache print result other
      rw [inserted] at answers
      simpa using answers

/-- The first call of a site whose cache was opened before. -/
theorem opened_dispatch_stores :
    let site : CallSite Nat String := ⟨some (Cache.empty .skipDuplicates), .skipDuplicates⟩
    let call : Capture Declared.Arg := ⟨[{ id := 7, own := some 0, held := some 3 }], []⟩
    let resolve : Resolver Declared.World Declared.Arg Nat String Empty := fun _ => pure "resolved"
    let ambient : Ambient Declared.World Nat String := { world := [] }
    let done := (site.dispatch (Declared.host []) resolve call).run ambient
    done.1.tally = .miss + .ofOutcome .stored ∧
    done.1.site.cache = some ((Cache.empty .skipDuplicates).setBucket 1
      [⟨⟨[.object 3]⟩, "resolved"⟩]) := by
  intro site call resolve ambient done
  have shape : call.shape maxArity = .positional 1 := rfl
  have read : (extract (Declared.host []) call.positional).eval ambient =
      (.ok ⟨[.object 3]⟩, { world := [7] }) := rfl
  have stored : done.1.tally = .miss + .ofOutcome .stored := by decide
  obtain ⟨result, mid, filed, after, -, resolved, read_again, filing, -, -⟩ :=
    dispatch_of_stored site (Declared.host []) resolve call ambient rfl shape read stored
  refine ⟨stored, ?_⟩
  cases resolved
  cases read_again
  exact congrArg (fun done => done.1.site.cache) filing

section Drift

open Reference

/-- The result of a call whose container holds an instance of one class while it is looked up
and of another once it is resolved is filed under the other. -/
theorem stored_under_what_resolving_left :
    ¬ ∀ (site : CallSite RuntimeType String) (cache : Cache RuntimeType String)
      (resolve : Resolver (State Unit) Value RuntimeType String Empty) (call : Capture Value)
      (ambient : Ambient (State Unit) RuntimeType String) (looked : Fingerprint RuntimeType),
      site.cache = some cache → call.shape maxArity = .positional 1 →
      ((extract (host (fun _ held => .done (.ok held)) 1) call.positional).eval ambient).1 =
        .ok looked →
      let done := (site.dispatch (host (fun _ held => .done (.ok held)) 1) resolve call).run ambient
      done.1.tally = .miss + .ofOutcome .stored →
      ∃ filed result, done.1.site.cache =
        some (cache.setBucket 1 (cache.bucket 1 ++ [⟨filed, result⟩])) ∧ filed = looked := by
  intro same
  let first : RuntimeType := ⟨3, "A", .attributes⟩
  let second : RuntimeType := ⟨4, "B", .attributes⟩
  let heap : Heap := ⟨#[.inst first .empty]⟩
  let container : Value := .object ⟨⟨1, "Scalar", .attributes⟩, .container ⟨0, false, none⟩⟩
  obtain ⟨filed, result, filing, rfl⟩ := same
    ⟨some (Cache.empty .allowDuplicates), .allowDuplicates⟩ (Cache.empty .allowDuplicates)
    (fun _ => do
      modify fun ambient =>
        { ambient with world := { ambient.world with heap := heap.store 0 (.inst second .empty) } }
      return "resolved for A")
    ⟨[container], []⟩ { world := { State.new () with nextId := 5, heap } } ⟨[.object first]⟩
    rfl rfl rfl rfl
  have entries := congrArg
    (fun cache => cache.map fun cache => (cache.bucket 1).map Entry.fingerprint)
    filing
  have prints : [(⟨[.object second]⟩ : Fingerprint RuntimeType)] = [⟨[.object first]⟩] :=
    Option.some.inj entries
  revert prints
  decide

end Drift

end DispatchCache.CallSite
