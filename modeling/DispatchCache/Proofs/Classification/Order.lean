import DispatchCache.Proofs.Classification.Recording
import DispatchCache.Proofs.Classification.Stopping
import DispatchCache.Proofs.Deeds
import DispatchCache.Declared

/-! # The order in which arguments are read

Reading the arguments of a call is a sequence of readings, one for each argument up to the first
that cannot be read. A reading starts from the state that all before it have left, so whatever one
does is done when the next begins. It decontainerizes its own argument once or not at all, and puts
no question about any other. -/

namespace DispatchCache

variable {World Arg Val Ty R Err : Type}

namespace Reading

variable (reading : Reading World Arg Val Ty R Err)

/-- Whether the argument is decontainerized. -/
def opens : Bool := reading.host.opens reading.arg reading.start

/-- The argument is decontainerized, and that fails. -/
def Fails (cause : Err) (stop : Ambient World Ty R) : Prop :=
  reading.opens = true ∧
    (reading.host.decontainerize reading.arg).eval reading.start = (.error cause, stop)

end Reading

/-- Hosts that answer alike for an argument, and for all values and types. -/
structure Host.AlikeFor (host other : Host World Arg Val Ty R Err) (arg : Arg) : Prop where
  isNativeStr : ∀ world, other.isNativeStr world arg = host.isNativeStr world arg
  isNativeInt : ∀ world, other.isNativeInt world arg = host.isNativeInt world arg
  isNativeNum : ∀ world, other.isNativeNum world arg = host.isNativeNum world arg
  ownType : ∀ world, other.ownType world arg = host.ownType world arg
  isWritable : ∀ world, other.isWritable world arg = host.isWritable world arg
  decontainerize : other.decontainerize arg = host.decontainerize arg
  typeOf : other.typeOf = host.typeOf
  isTypeObject : other.isTypeObject = host.isTypeObject
  isNativeRef : other.isNativeRef = host.isNativeRef

variable [DecidableEq Ty]

theorem Reading.fails_iff {reading : Reading World Arg Val Ty R Err} {cause : Err}
    {stop : Ambient World Ty R} : reading.Fails cause stop ↔ reading.done = (.error cause, stop) :=
  Host.eval_classify_eq_error_iff.symm

namespace Host

section AlikeFor

variable {host other : Host World Arg Val Ty R Err}

omit [DecidableEq Ty] in
theorem AlikeFor.refl (host : Host World Arg Val Ty R Err) (arg : Arg) : host.AlikeFor host arg :=
  ⟨fun _ => rfl, fun _ => rfl, fun _ => rfl, fun _ => rfl, fun _ => rfl, rfl, rfl, rfl, rfl⟩

/-- Classifying an argument puts questions about that argument alone. -/
theorem AlikeFor.classify_eq {arg : Arg} (alike : host.AlikeFor other arg) :
    classify other arg = classify host arg := by
  simp only [classify, Queries.heldKey, Queries.nativeKey, alike.isNativeStr, alike.isNativeInt,
    alike.isNativeNum, alike.ownType, alike.isWritable, alike.decontainerize, alike.typeOf,
    alike.isTypeObject, alike.isNativeRef]

theorem extractKeys_congr {args : List Arg} (alike : ∀ arg ∈ args, host.AlikeFor other arg) :
    extractKeys other args = extractKeys host args := by
  induction args with
  | nil => rfl
  | cons arg args ih =>
    obtain ⟨first, later⟩ := List.forall_mem_cons.mp alike
    rw [extractKeys, extractKeys, first.classify_eq, ih later]

end AlikeFor

section Readings

variable (host : Host World Arg Val Ty R Err)

/-- The readings that arguments are read by, in order. After a failure there are no more. -/
def readings : List Arg → Ambient World Ty R → List (Reading World Arg Val Ty R Err)
  | [], _ => []
  | arg :: args, start =>
    ⟨host, arg, start⟩ ::
      match (classify host arg).eval start with
      | (.error _, _) => []
      | (.ok _, after) => readings args after

variable {host} {arg : Arg} {start mid : Ambient World Ty R}

theorem readings_cons_of_error {cause : Err} (args : List Arg)
    (classified : (classify host arg).eval start = (.error cause, mid)) :
    host.readings (arg :: args) start = [⟨host, arg, start⟩] := by
  rw [readings, classified]

theorem readings_cons_of_ok {key : TypeKey Ty} (args : List Arg)
    (classified : (classify host arg).eval start = (.ok key, mid)) :
    host.readings (arg :: args) start = ⟨host, arg, start⟩ :: host.readings args mid := by
  rw [readings, classified]

variable (host) (args : List Arg) (start : Ambient World Ty R)

/-- The state that reading the first `count` arguments leaves. -/
def reachedBy (count : Nat) : Ambient World Ty R :=
  ((extract host (args.take count)).eval start).2

theorem snd_eval_extract_take (count : Nat) :
    ((extractKeys host (args.take count)).eval start).2 = host.reachedBy args start count :=
  (Run.snd_eval_bind_pure Fingerprint.mk _ start).symm

variable {args}

theorem reachedBy_cons_of_ok {key : TypeKey Ty}
    (classified : (classify host arg).eval start = (.ok key, mid)) (count : Nat) :
    host.reachedBy (arg :: args) start (count + 1) = host.reachedBy args mid count := by
  rw [← snd_eval_extract_take, ← snd_eval_extract_take, List.take_succ_cons, extractKeys,
    Run.eval_bind_ok _ classified, Run.snd_eval_bind_pure]

theorem reachedBy_cons_one :
    host.reachedBy (arg :: args) start 1 = ((classify host arg).eval start).2 := by
  rw [← snd_eval_extract_take, List.take_succ_cons, List.take_zero, extractKeys]
  rcases classified : (classify host arg).eval start with ⟨cause | key, mid⟩
  · exact congrArg Prod.snd (Run.eval_bind_error _ classified)
  · rw [Run.eval_bind_ok _ classified]
    rfl

/-- Each reading is that of the argument at its place, from the state that those before it have
left to the state that those up to it leave. -/
theorem readings_getElem? {place : Nat} {reading : Reading World Arg Val Ty R Err}
    (there : (host.readings args start)[place]? = some reading) :
    ∃ arg, args[place]? = some arg ∧ reading = ⟨host, arg, host.reachedBy args start place⟩ ∧
      reading.done.2 = host.reachedBy args start (place + 1) := by
  induction args generalizing start place with
  | nil => cases there
  | cons arg args ih =>
    cases place with
    | zero =>
      obtain rfl : ⟨host, arg, start⟩ = reading := Option.some.inj there
      exact ⟨arg, rfl, rfl, (host.reachedBy_cons_one start).symm⟩
    | succ place =>
      rcases classified : (classify host arg).eval start with ⟨cause | key, mid⟩
      · rw [readings_cons_of_error args classified] at there
        cases there
      · rw [readings_cons_of_ok args classified] at there
        obtain ⟨later, isLater, rfl, done⟩ := ih mid there
        refine ⟨later, isLater, ?_, ?_⟩
        · rw [host.reachedBy_cons_of_ok start classified]
        · rw [host.reachedBy_cons_of_ok start classified, done]

variable {host} in
theorem exists_of_mem_readings {reading : Reading World Arg Val Ty R Err}
    (member : reading ∈ host.readings args start) :
    ∃ arg ∈ args, ∃ state, reading = ⟨host, arg, state⟩ := by
  obtain ⟨place, there⟩ := List.getElem?_of_mem member
  obtain ⟨arg, isArg, same, -⟩ := host.readings_getElem? start there
  exact ⟨arg, List.mem_of_getElem? isArg, _, same⟩

variable (args)

/-- What goes on record are the arguments that are decontainerized, in order. -/
theorem eval_extractKeys_recorded (record : List Arg) :
    (extractKeys host.recorded args).eval (start.recall record) =
      (((extractKeys host args).eval start).1,
        ((extractKeys host args).eval start).2.recall
          (record ++ ((host.readings args start).filter Reading.opens).map Reading.arg)) := by
  induction args generalizing start record with
  | nil => simp [extractKeys, readings, Run.eval_pure]
  | cons arg args ih =>
    have first := host.eval_classify_recorded arg start record
    have opened (rest : List (Reading World Arg Val Ty R Err)) :
        ((⟨host, arg, start⟩ :: rest).filter Reading.opens).map Reading.arg =
          (if host.opens arg start then [arg] else []) ++
            (rest.filter Reading.opens).map Reading.arg := by
      by_cases opens : host.opens arg start = true <;> simp [Reading.opens, opens]
    rw [extractKeys, extractKeys]
    rcases classified : (classify host arg).eval start with ⟨cause | key, mid⟩
    · rw [classified] at first
      rw [readings_cons_of_error args classified, Run.eval_bind_error _ classified,
        Run.eval_bind_error _ first, opened, List.filter_nil, List.map_nil, List.append_nil]
    · rw [classified] at first
      rw [readings_cons_of_ok args classified, Run.eval_bind_ok _ classified,
        Run.eval_bind_ok _ first, opened, ← List.append_assoc]
      have rest := ih mid (record ++ if host.opens arg start then [arg] else [])
      rcases read : (extractKeys host args).eval mid with ⟨cause | keys, after⟩
      · rw [read] at rest
        rw [Run.eval_bind_error _ read, Run.eval_bind_error _ rest]
      · rw [read] at rest
        rw [Run.eval_bind_ok _ read, Run.eval_bind_ok _ rest]
        rfl

variable {args} {stop : Ambient World Ty R} {cause : Err}

/-- Arguments that can all be read give one key each. -/
theorem map_key_readings {keys : List (TypeKey Ty)}
    (read : (extractKeys host args).eval start = (.ok keys, stop)) :
    (host.readings args start).map Reading.key = keys.map .ok := by
  induction args generalizing start keys with
  | nil =>
    cases read
    rfl
  | cons arg args ih =>
    obtain ⟨key, mid, classified, rest⟩ := Run.exists_of_eval_bind_ok read
    obtain ⟨tail, _, read_tail, built⟩ := Run.exists_of_eval_bind_ok rest
    cases built
    have first : (⟨host, arg, start⟩ : Reading World Arg Val Ty R Err).key = .ok key :=
      congrArg Prod.fst classified
    rw [readings_cons_of_ok args classified, List.map_cons, List.map_cons, ih mid read_tail, first]

theorem map_arg_readings {keys : List (TypeKey Ty)}
    (read : (extractKeys host args).eval start = (.ok keys, stop)) :
    (host.readings args start).map Reading.arg = args := by
  induction args generalizing start keys with
  | nil => rfl
  | cons arg args ih =>
    obtain ⟨key, mid, classified, rest⟩ := Run.exists_of_eval_bind_ok read
    obtain ⟨tail, _, read_tail, built⟩ := Run.exists_of_eval_bind_ok rest
    cases built
    rw [readings_cons_of_ok args classified, List.map_cons, ih mid read_tail]

theorem map_arg_readings_prefix : (host.readings args start).map Reading.arg <+: args := by
  induction args generalizing start with
  | nil => exact List.prefix_rfl
  | cons arg args ih =>
    rcases classified : (classify host arg).eval start with ⟨cause | key, mid⟩
    · rw [readings_cons_of_error args classified, List.map_cons, List.map_nil]
      exact List.prefix_append [arg] args
    · rw [readings_cons_of_ok args classified, List.map_cons, List.prefix_cons_inj]
      exact ih mid

/-- What cannot be read at all has a reading that fails. -/
theorem exists_fails_of_eval_extractKeys
    (failed : (extractKeys host args).eval start = (.error cause, stop)) :
    ∃ reading ∈ host.readings args start, reading.Fails cause stop := by
  induction args generalizing start with
  | nil => cases failed
  | cons arg args ih =>
    rw [extractKeys] at failed
    rcases classified : (classify host arg).eval start with ⟨failure | key, mid⟩
    · rw [Run.eval_bind_error _ classified] at failed
      cases failed
      rw [readings_cons_of_error args classified]
      exact ⟨_, List.mem_singleton_self _, Reading.fails_iff.mpr classified⟩
    · rw [Run.eval_bind_ok _ classified] at failed
      rcases rest : (extractKeys host args).eval mid with ⟨failure | keys, after⟩
      · rw [Run.eval_bind_error _ rest] at failed
        cases failed
        obtain ⟨reading, member, fails⟩ := ih mid rest
        rw [readings_cons_of_ok args classified]
        exact ⟨reading, List.mem_cons_of_mem _ member, fails⟩
      · rw [Run.eval_bind_ok _ rest] at failed
        cases failed

/-- A reading that fails is the last. -/
theorem eval_extractKeys_of_fails {place : Nat} {reading : Reading World Arg Val Ty R Err}
    (there : (host.readings args start)[place]? = some reading) (fails : reading.Fails cause stop) :
    (host.readings args start).length = place + 1 ∧
      (extractKeys host (args.take (place + 1))).eval start = (.error cause, stop) := by
  induction args generalizing start place with
  | nil => cases there
  | cons arg args ih =>
    rcases classified : (classify host arg).eval start with ⟨failure | key, mid⟩
    · rw [readings_cons_of_error args classified] at there ⊢
      cases place with
      | succ place => cases there
      | zero =>
        obtain rfl := Option.some.inj there
        obtain ⟨rfl, rfl⟩ : failure = cause ∧ mid = stop := by
          simpa using classified.symm.trans (Reading.fails_iff.mp fails)
        exact ⟨rfl, Run.eval_bind_error _ classified⟩
    · rw [readings_cons_of_ok args classified] at there ⊢
      cases place with
      | zero =>
        obtain rfl := Option.some.inj there
        cases classified.symm.trans (Reading.fails_iff.mp fails)
      | succ place =>
        obtain ⟨last, cut⟩ := ih mid there
        refine ⟨congrArg (· + 1) last, ?_⟩
        rw [List.take_succ_cons, extractKeys, Run.eval_bind_ok _ classified]
        exact Run.eval_bind_error _ cut

/-- What stands behind arguments that cannot all be read is of no account. -/
theorem eval_extractKeys_append_of_error
    (failed : (extractKeys host args).eval start = (.error cause, stop)) (right : List Arg) :
    (extractKeys host (args ++ right)).eval start = (.error cause, stop) := by
  induction args generalizing start with
  | nil => cases failed
  | cons arg args ih =>
    rw [List.cons_append, extractKeys]
    rw [extractKeys] at failed
    rcases classified : (classify host arg).eval start with ⟨failure | key, mid⟩
    · rw [Run.eval_bind_error _ classified] at failed ⊢
      exact failed
    · rw [Run.eval_bind_ok _ classified] at failed ⊢
      rcases rest : (extractKeys host args).eval mid with ⟨failure | keys, after⟩
      · rw [Run.eval_bind_error _ rest] at failed
        cases failed
        exact Run.eval_bind_error _ (ih mid rest)
      · rw [Run.eval_bind_ok _ rest] at failed
        cases failed

/-- The deeds of an extraction are those of its readings, one reading after the other. -/
theorem extractDeeds_eq (within : Arg → Ambient World Ty R → List (Deed World Arg Val Ty R Err))
    (args : List Arg) (start : Ambient World Ty R) :
    extractDeeds host within args start =
      (host.readings args start).flatMap fun reading =>
        readDeeds host within reading.arg reading.start := by
  induction args generalizing start with
  | nil => rfl
  | cons arg args ih =>
    rw [extractDeeds]
    rcases classified : (classify host arg).eval start with ⟨cause | key, mid⟩
    · rw [readings_cons_of_error args classified, List.flatMap_cons, List.flatMap_nil]
    · rw [readings_cons_of_ok args classified, List.flatMap_cons, ← ih mid]

end Readings

section Extraction

variable (host : Host World Arg Val Ty R Err) (args : List Arg) (start : Ambient World Ty R)

theorem eval_extract_of_eval_extractKeys {answer : Except Err (List (TypeKey Ty))}
    {stop : Ambient World Ty R} (read : (extractKeys host args).eval start = (answer, stop)) :
    (extract host args).eval start = (answer.map Fingerprint.mk, stop) := by
  cases answer with
  | error cause => exact Run.eval_bind_error _ read
  | ok keys => exact Run.eval_bind_ok _ read

/-- Arguments that can all be read have a reading each. -/
theorem exists_eval_extract_of_fine
    (fine : ∀ reading ∈ host.readings args start, ∀ cause stop, ¬ reading.Fails cause stop) :
    ∃ print stop, (extract host args).eval start = (.ok print, stop) ∧
      (host.readings args start).map Reading.arg = args := by
  rcases read : (extractKeys host args).eval start with ⟨cause | keys, stop⟩
  · obtain ⟨reading, member, fails⟩ := host.exists_fails_of_eval_extractKeys start read
    exact absurd fails (fine reading member cause stop)
  · exact ⟨_, _, host.eval_extract_of_eval_extractKeys args start read,
      host.map_arg_readings start read⟩

theorem eval_extract_recorded (record : List Arg) :
    (extract host.recorded args).eval (start.recall record) =
      (((extract host args).eval start).1,
        ((extract host args).eval start).2.recall
          (record ++ ((host.readings args start).filter Reading.opens).map Reading.arg)) := by
  have recorded := host.eval_extractKeys_recorded args start record
  rcases read : (extractKeys host args).eval start with ⟨answer, stop⟩
  rw [read] at recorded
  rw [eval_extract_of_eval_extractKeys _ _ _ read, eval_extract_of_eval_extractKeys _ _ _ recorded]

/-- What reading arguments in turn comes to. -/
structure ReadsInTurn (watch : Watch host) : Prop where
  /-- Each argument is read from the state that those before it have left. -/
  placed : ∀ place reading, (host.readings args start)[place]? = some reading →
    ∃ arg, args[place]? = some arg ∧ reading = ⟨host, arg, host.reachedBy args start place⟩ ∧
      reading.done.2 = host.reachedBy args start (place + 1)
  /-- It is done with before the next is begun. -/
  linked : Linked start
    ((host.readings args start).flatMap fun reading =>
      readDeeds host watch.deeds reading.arg reading.start)
    ((extract host args).eval start).2
  /-- Those that are decontainerized are so once each and in order. -/
  recorded : ∀ record, (extract host.recorded args).eval (start.recall record) =
    (((extract host args).eval start).1,
      ((extract host args).eval start).2.recall
        (record ++ ((host.readings args start).filter Reading.opens).map Reading.arg))
  fine : (∀ reading ∈ host.readings args start, ∀ cause stop, ¬ reading.Fails cause stop) →
    ∃ keys, (extract host args).eval start =
        (.ok ⟨keys⟩, host.reachedBy args start args.length) ∧
      keys.length = args.length ∧
      (host.readings args start).map Reading.key = keys.map .ok
  failed : ∀ place reading cause stop, (host.readings args start)[place]? = some reading →
    reading.Fails cause stop →
      (host.readings args start).length = place + 1 ∧
      (extract host args).eval start = (.error cause, stop) ∧
      ∀ other, (∀ arg ∈ args.take (place + 1), host.AlikeFor other arg) →
        ∀ right, (extract other (args.take (place + 1) ++ right)).eval start =
          (.error cause, stop)

/-- Arguments are read in turn. Each is read from the state that those before it have left, and is
done with before the next is begun. Those with a type that are no native strings are
decontainerized, once each and in order, up to the first where that fails. Without a failure there
is a key for each argument, the one that its reading gives. The first failure is the answer, and a
host that knows no more than the arguments so far answers alike, whatever follows them. -/
theorem extract_in_turn (watch : Watch host) : host.ReadsInTurn args start watch := by
  constructor
  case placed => exact fun place reading => host.readings_getElem? start
  case linked =>
    rw [← extractDeeds_eq]
    exact watch.linked_extractDeeds args start
  case recorded => exact host.eval_extract_recorded args start
  case fine =>
    intro fine
    rcases read : (extractKeys host args).eval start with ⟨cause | keys, stop⟩
    · obtain ⟨reading, member, fails⟩ := host.exists_fails_of_eval_extractKeys start read
      exact absurd fails (fine reading member cause stop)
    · have extracted := host.eval_extract_of_eval_extractKeys args start read
      refine ⟨keys, ?_, length_of_extractKeys read, host.map_key_readings start read⟩
      rw [reachedBy, List.take_length, extracted]
      rfl
  case failed =>
    intro place reading cause stop there fails
    obtain ⟨last, cut⟩ := host.eval_extractKeys_of_fails start there fails
    refine ⟨last, ?_, fun other alike right => ?_⟩
    · have whole := host.eval_extractKeys_append_of_error start cut (args.drop (place + 1))
      rw [List.take_append_drop] at whole
      exact host.eval_extract_of_eval_extractKeys args start whole
    · rw [← extractKeys_congr alike] at cut
      exact other.eval_extract_of_eval_extractKeys _ start
        (other.eval_extractKeys_append_of_error start cut right)

end Extraction

end Host

/-- The string is not decontainerized, the container that follows gets the first slot, and nothing
asks for the argument behind the unreadable one. -/
theorem Declared.reads_up_to_failure :
    let host : Host Declared.World Declared.Arg Declared.Val Nat String _ := Declared.host []
    let str : Declared.Arg := { id := 1, isStr := true, own := some 0, held := some 3 }
    let writable : Declared.Arg := { id := 2, writable := true, own := some 0, held := some 3 }
    let unreadable : Declared.Arg := { id := 3, own := some 0 }
    let start : Ambient Declared.World Nat String := { world := [] }
    let reached : Ambient Declared.World Nat String :=
      { world := [2], slots := ⟨[(3, .inst)]⟩, log := #[.slotMade .inst] }
    let stop := { reached with world := [3, 2] }
    host.readings [str, writable, unreadable, { id := 4 }] start =
        [⟨host, str, start⟩, ⟨host, writable, start⟩, ⟨host, unreadable, reached⟩] ∧
      (⟨host, unreadable, reached⟩ : Reading _ _ _ _ _ _).Fails ⟨3⟩ stop ∧
      (∀ right, (extract host ([str, writable, unreadable] ++ right)).eval start =
        (.error ⟨3⟩, stop)) ∧
      ∃ keys, (extract host [str, writable]).eval start = (.ok ⟨keys⟩, reached) ∧
        keys.length = 2 := by
  intro host str writable unreadable start reached stop
  have readings : host.readings [str, writable, unreadable, { id := 4 }] start =
      [⟨host, str, start⟩, ⟨host, writable, start⟩, ⟨host, unreadable, reached⟩] := rfl
  have fails : (⟨host, unreadable, reached⟩ : Reading _ _ _ _ _ _).Fails ⟨3⟩ stop := ⟨rfl, rfl⟩
  have inTurn := host.extract_in_turn [str, writable, unreadable, { id := 4 }] start
    (Watch.fromOutside host)
  obtain ⟨-, -, cut⟩ := inTurn.failed 2 _ ⟨3⟩ stop (congrArg (·[2]?) readings) fails
  have inTurn' := host.extract_in_turn [str, writable] start (Watch.fromOutside host)
  have fine : ∀ reading ∈ host.readings [str, writable] start, ∀ cause stop,
      ¬ reading.Fails cause stop := by
    intro reading member cause stop fails
    have ways : reading = ⟨host, str, start⟩ ∨ reading = ⟨host, writable, start⟩ := by
      simpa using (show reading ∈ [_, _] from member)
    rcases ways with rfl | rfl
    · cases fails.1
    · cases congrArg Prod.fst fails.2
  obtain ⟨keys, read, length, -⟩ := inTurn'.fine fine
  exact ⟨readings, fails, cut host fun arg _ => .refl host arg, keys, read, length⟩

end DispatchCache
