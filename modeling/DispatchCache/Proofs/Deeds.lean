import DispatchCache.Proofs.Classification
import DispatchCache.Proofs.SharedCache.Serving
import DispatchCache.UserCode

/-! # What happens in a run, deed by deed

Requests to shared caches read arguments, reading runs user code, and user code makes
requests again. Such a run is told as the list of its deeds, each at the moment it is done:
user code changes the world, an argument is classified, a request is answered. An argument is
classified after all that its reading did, and a request is answered after all that its
arguments did. Each deed starts from the state that the one before has left, so nothing that
changes the ambient state goes untold. -/

namespace DispatchCache

variable {World Arg Val Ty R Err : Type}

/-- An argument that is about to be classified. -/
structure Reading (World Arg Val Ty R Err : Type) where
  host : Host World Arg Val Ty R Err
  arg : Arg
  start : Ambient World Ty R

/-- A request to the shared cache at a place that is about to be served. -/
structure Use (World Arg Val Ty R Err : Type) where
  host : Host World Arg Val Ty R Err
  place : Nat
  request : CacheRequest Arg R
  start : Ambient World Ty R

inductive Deed (World Arg Val Ty R Err : Type) where
  | change (before after : Ambient World Ty R)
  | read (reading : Reading World Arg Val Ty R Err)
  | use (use : Use World Arg Val Ty R Err)

variable [DecidableEq Ty]

namespace Reading

variable (reading : Reading World Arg Val Ty R Err)

def done : Except Err (TypeKey Ty) × Ambient World Ty R :=
  (classify reading.host reading.arg).eval reading.start

def key : Except Err (TypeKey Ty) := reading.done.1

omit [DecidableEq Ty] in
def view : Except Err (View Ty) := reading.host.view reading.arg reading.start

end Reading

namespace Use

variable (use : Use World Arg Val Ty R Err)

def done : Except Err (CacheAnswer R) × Ambient World Ty R :=
  (SharedCache.serve use.host use.place use.request).eval use.start

def answer : Except Err (CacheAnswer R) := use.done.1

omit [DecidableEq Ty] in
/-- Whether the arguments are read. -/
def reads : Bool := use.request.reads (use.start.cacheAt use.place)

def extracted : Except Err (Fingerprint Ty) × Ambient World Ty R :=
  (extract use.host use.request.call.positional).eval use.start

/-- What the arguments were read as, if they were read. -/
def print? : Option (Fingerprint Ty) := if use.reads then use.extracted.1.toOption else none

/-- The state in which the shared cache is accessed. Arguments have been read by then. -/
def before : Ambient World Ty R := if use.reads then use.extracted.2 else use.start

def after : Ambient World Ty R := use.done.2

/-- The ways a use can end, by what its one access found. -/
inductive Ending : Prop where
  | refused {reason} (shape : (use.request.call.shape maxArity).refusal? = some reason)
      (answer : use.answer = .ok (use.request.refused reason)) (kept : use.after = use.before)
  | full {call result} (request : use.request = .add call result)
      (shape : (use.request.call.shape maxArity).refusal? = none)
      (full : (use.before.cacheAt use.place).isFull call.arity = true)
      (answer : use.answer = .ok (.filed (.dropped .bucketFull))) (unread : use.print? = none)
      (kept : use.after = use.before)
  | unread {cause} (answer : use.answer = .error cause) (kept : use.after = use.before)
  | read {print} (shape : (use.request.call.shape maxArity).refusal? = none)
      (read : use.print? = some print) (arity : print.arity = use.request.call.arity)
      (answer : use.answer = .ok (use.before.access use.place print use.request).1)
      (after : use.after = (use.before.access use.place print use.request).2)

theorem ending : use.Ending := by
  have way := SharedCache.serving use.host use.place use.request use.start
  rcases served : (SharedCache.serve use.host use.place use.request).eval use.start with
    ⟨answer, after⟩
  have answer_eq : use.answer = answer := congrArg Prod.fst served
  have after_eq : use.after = after := congrArg Prod.snd served
  rw [served] at way
  cases way with
  | refused shape =>
    have unread : use.reads = false := by
      rw [← Bool.not_eq_true]
      intro reads
      have accepted := ((CacheRequest.reads_iff _ _).mp reads).1
      rw [shape] at accepted
      cases accepted
    exact .refused shape answer_eq (by simp [before, unread, after_eq])
  | full request shape full =>
    have unread : use.reads = false := by
      rw [← Bool.not_eq_true]
      intro reads
      have room := ((CacheRequest.reads_iff _ _).mp reads).2
      rw [request, CacheRequest.stops, full] at room
      cases room
    have before_eq : use.before = use.start := by simp [before, unread]
    refine .full request ?_ ?_ answer_eq (by simp [print?, unread]) ?_
    · rw [request]
      exact shape
    · rw [before_eq]
      exact full
    · rw [before_eq, after_eq]
  | unread reads read =>
    have before_eq : use.before = after := (if_pos reads).trans (congrArg Prod.snd read)
    exact .unread answer_eq (after_eq.trans before_eq.symm)
  | @read print extracted reads read =>
    have extracted_eq : use.extracted = (.ok print, extracted) := read
    have before_eq : use.before = extracted := (if_pos reads).trans (congrArg Prod.snd read)
    have print_eq : use.print? = some print := by
      rw [print?, extracted_eq]
      exact if_pos reads
    rw [← before_eq] at answer_eq after_eq
    exact .read ((CacheRequest.reads_iff _ _).mp reads).1 print_eq (arity_of_extract read)
      answer_eq after_eq

/-- The state changes at most by the one access. -/
theorem after_cases : use.after = use.before ∨
    ∃ print, use.after = (use.before.access use.place print use.request).2 := by
  cases use.ending with
  | refused shape answer kept => exact .inl kept
  | full request shape full answer unread kept => exact .inl kept
  | unread answer kept => exact .inl kept
  | read shape read arity answer after => exact .inr ⟨_, after⟩

end Use

namespace Deed

/-- The state in which a deed is done. -/
def before : Deed World Arg Val Ty R Err → Ambient World Ty R
  | .change before _ => before
  | .read reading => reading.host.opened reading.arg reading.start
  | .use served => served.before

def after : Deed World Arg Val Ty R Err → Ambient World Ty R
  | .change _ after => after
  | .read reading => reading.done.2
  | .use served => served.after

omit [DecidableEq Ty] in
/-- Whether what is done outside the library keeps something of the ambient state. -/
def Keeps (kept : Ambient World Ty R → Ambient World Ty R → Prop) :
    Deed World Arg Val Ty R Err → Prop
  | .change before after => kept before after
  | .read _ | .use _ => True

end Deed

/-- Deeds that lead from one state to another. -/
inductive Linked : Ambient World Ty R → List (Deed World Arg Val Ty R Err) →
    Ambient World Ty R → Prop where
  | nil (state : Ambient World Ty R) : Linked state [] state
  | cons {deeds : List (Deed World Arg Val Ty R Err)} {stop : Ambient World Ty R}
      (deed : Deed World Arg Val Ty R Err) (rest : Linked deed.after deeds stop) :
      Linked deed.before (deed :: deeds) stop

/-- The state that deeds lead to. -/
def reached (start : Ambient World Ty R) (deeds : List (Deed World Arg Val Ty R Err)) :
    Ambient World Ty R :=
  deeds.foldl (fun _ deed => deed.after) start

namespace Linked

variable {start middle stop : Ambient World Ty R} {deeds more : List (Deed World Arg Val Ty R Err)}

theorem append (first : Linked start deeds middle) (rest : Linked middle more stop) :
    Linked start (deeds ++ more) stop := by
  induction first with
  | nil => exact rest
  | cons deed _ ih => exact .cons deed (ih rest)

theorem reached_eq (linked : Linked start deeds stop) : reached start deeds = stop := by
  induction linked with
  | nil => rfl
  | cons deed rest ih => exact ih

/-- A run can be halted between any two deeds. -/
theorem of_append (whole : Linked start (deeds ++ more) stop) :
    Linked start deeds (reached start deeds) := by
  induction deeds generalizing start with
  | nil => exact .nil start
  | cons deed deeds ih =>
    cases whole with
    | cons _ rest => exact .cons deed (ih rest)

end Linked

section Deeds

variable (host : Host World Arg Val Ty R Err)
variable (within : Arg → Ambient World Ty R → List (Deed World Arg Val Ty R Err))

omit [DecidableEq Ty] in
/-- Classifying one argument, where `within` tells what its reading does. -/
def readDeeds (arg : Arg) (ambient : Ambient World Ty R) : List (Deed World Arg Val Ty R Err) :=
  (if host.opens arg ambient then within arg ambient else []) ++ [.read ⟨host, arg, ambient⟩]

/-- Classifying arguments one by one, up to the first that cannot be read. -/
def extractDeeds : List Arg → Ambient World Ty R → List (Deed World Arg Val Ty R Err)
  | [], _ => []
  | arg :: args, ambient =>
    readDeeds host within arg ambient ++
      match (classify host arg).eval ambient with
      | (.error _, _) => []
      | (.ok _, after) => extractDeeds args after

/-- Serving one request. -/
def useDeeds (place : Nat) (request : CacheRequest Arg R) (ambient : Ambient World Ty R) :
    List (Deed World Arg Val Ty R Err) :=
  let use : Use World Arg Val Ty R Err := ⟨host, place, request, ambient⟩
  (if use.reads then extractDeeds host within request.call.positional ambient else []) ++ [.use use]

/-- Running user code whose requests are served for `host`. -/
def UserCode.deeds {Out : Type} : UserCode World Arg R Err Out → Ambient World Ty R →
    List (Deed World Arg Val Ty R Err)
  | .done _, _ => []
  | .look next, ambient => (next ambient.world).deeds ambient
  | .change world next, ambient =>
    .change ambient { ambient with world := world } :: next.deeds { ambient with world := world }
  | .find place call next, ambient =>
    let (answer, after) := (SharedCache.find host place call).eval ambient
    useDeeds host within place (.find call) ambient ++ (next answer).deeds after
  | .add place call result next, ambient =>
    let (answer, after) := (SharedCache.add host place call result).eval ambient
    useDeeds host within place (.add call result) ambient ++ (next answer).deeds after

end Deeds

/-- An account of all that a host does while it reads arguments. -/
structure Watch (host : Host World Arg Val Ty R Err) where
  deeds : Arg → Ambient World Ty R → List (Deed World Arg Val Ty R Err)
  linked : ∀ arg ambient,
    Linked ambient (deeds arg ambient) ((host.decontainerize arg).eval ambient).2

/-- The account of a host that is seen from outside only. -/
def Watch.fromOutside (host : Host World Arg Val Ty R Err) : Watch host where
  deeds arg ambient := [.change ambient ((host.decontainerize arg).eval ambient).2]
  linked arg ambient := .cons (.change ambient ((host.decontainerize arg).eval ambient).2) (.nil _)

/-- Whether all that a host does outside the library keeps something of the ambient state. -/
def Watch.Keeps {host : Host World Arg Val Ty R Err} (watch : Watch host)
    (kept : Ambient World Ty R → Ambient World Ty R → Prop) : Prop :=
  ∀ arg ambient, ∀ deed ∈ watch.deeds arg ambient, deed.Keeps kept

namespace Watch

variable {host : Host World Arg Val Ty R Err} (watch : Watch host)
variable {kept : Ambient World Ty R → Ambient World Ty R → Prop}

theorem linked_readDeeds (arg : Arg) (ambient : Ambient World Ty R) :
    Linked ambient (readDeeds host watch.deeds arg ambient)
      ((classify host arg).eval ambient).2 := by
  have last : Linked (host.opened arg ambient) [.read ⟨host, arg, ambient⟩]
      ((classify host arg).eval ambient).2 := .cons (.read ⟨host, arg, ambient⟩) (.nil _)
  unfold readDeeds
  unfold Host.opened at last
  split_ifs at last ⊢
  · exact (watch.linked arg ambient).append last
  · exact last

theorem linked_extractDeeds (args : List Arg) (ambient : Ambient World Ty R) :
    Linked ambient (extractDeeds host watch.deeds args ambient)
      ((extract host args).eval ambient).2 := by
  rw [extract, Run.snd_eval_bind_pure]
  induction args generalizing ambient with
  | nil => exact .nil ambient
  | cons arg args ih =>
    have first := watch.linked_readDeeds arg ambient
    rw [extractDeeds, extractKeys]
    rcases read : (classify host arg).eval ambient with ⟨cause | key, after⟩
    · -- Nothing is read after the first argument that cannot be.
      rw [read] at first
      rw [Run.eval_bind_error _ read, List.append_nil]
      exact first
    · rw [read] at first
      rw [Run.eval_bind_ok _ read, Run.snd_eval_bind_pure]
      exact first.append (ih after)

theorem linked_useDeeds (place : Nat) (request : CacheRequest Arg R)
    (ambient : Ambient World Ty R) :
    Linked ambient (useDeeds host watch.deeds place request ambient)
      ((SharedCache.serve host place request).eval ambient).2 := by
  let use : Use World Arg Val Ty R Err := ⟨host, place, request, ambient⟩
  have last : Linked (Deed.use use).before [.use use]
      ((SharedCache.serve host place request).eval ambient).2 := .cons (.use use) (.nil _)
  simp only [useDeeds, Deed.before, Use.before] at last ⊢
  split_ifs at last ⊢
  · exact (watch.linked_extractDeeds _ ambient).append last
  · exact last

theorem keeps_readDeeds (keeps : watch.Keeps kept) (arg : Arg) (ambient : Ambient World Ty R) :
    ∀ deed ∈ readDeeds host watch.deeds arg ambient, deed.Keeps kept := by
  intro deed member
  rcases List.mem_append.mp member with inner | last
  · split_ifs at inner
    · exact keeps arg ambient deed inner
    · cases inner
  · obtain rfl := List.mem_singleton.mp last
    trivial

theorem keeps_extractDeeds (keeps : watch.Keeps kept) (args : List Arg)
    (ambient : Ambient World Ty R) :
    ∀ deed ∈ extractDeeds host watch.deeds args ambient, deed.Keeps kept := by
  induction args generalizing ambient with
  | nil =>
    intro deed member
    cases member
  | cons arg args ih =>
    intro deed member
    rcases List.mem_append.mp member with first | rest
    · exact watch.keeps_readDeeds keeps arg ambient deed first
    · split at rest
      · cases rest
      · exact ih _ deed rest

theorem keeps_useDeeds (keeps : watch.Keeps kept) (place : Nat) (request : CacheRequest Arg R)
    (ambient : Ambient World Ty R) :
    ∀ deed ∈ useDeeds host watch.deeds place request ambient, deed.Keeps kept := by
  intro deed member
  rcases List.mem_append.mp member with inner | last
  · split_ifs at inner
    · exact watch.keeps_extractDeeds keeps _ ambient deed inner
    · cases inner
  · obtain rfl := List.mem_singleton.mp last
    trivial

end Watch

namespace UserCode

variable {Out : Type} {host : Host World Arg Val Ty R Err}

/-- What a lookup answers decides how user code goes on. -/
theorem eval_run_find (place : Nat) (call : Capture Arg)
    (next : Except Err (Option R) → UserCode World Arg R Err Out) (ambient : Ambient World Ty R) :
    ((UserCode.find place call next).run host).eval ambient =
      ((next ((SharedCache.find host place call).eval ambient).1).run host).eval
        ((SharedCache.find host place call).eval ambient).2 :=
  Run.eval_bind_ok _ (Run.eval_lift _ ambient)

theorem eval_run_add (place : Nat) (call : Capture Arg) (result : R)
    (next : Except Err InsertOutcome → UserCode World Arg R Err Out)
    (ambient : Ambient World Ty R) :
    ((UserCode.add place call result next).run host).eval ambient =
      ((next ((SharedCache.add host place call result).eval ambient).1).run host).eval
        ((SharedCache.add host place call result).eval ambient).2 :=
  Run.eval_bind_ok _ (Run.eval_lift _ ambient)

theorem linked_deeds (watch : Watch host) (code : UserCode World Arg R Err Out)
    (ambient : Ambient World Ty R) :
    Linked ambient (code.deeds host watch.deeds ambient) ((code.run host).eval ambient).2 := by
  induction code generalizing ambient with
  | done answer => cases answer <;> exact .nil ambient
  | look next ih => exact ih ambient.world ambient
  | change world next ih => exact .cons (.change ambient { ambient with world }) (ih _)
  | find place call next ih =>
    have served := watch.linked_useDeeds place (.find call) ambient
    rw [SharedCache.serve, Run.eval_map] at served
    rw [eval_run_find]
    exact served.append (ih _ _)
  | add place call result next ih =>
    have served := watch.linked_useDeeds place (.add call result) ambient
    rw [SharedCache.serve, Run.eval_map] at served
    rw [eval_run_add]
    exact served.append (ih _ _)

theorem keeps_deeds {watch : Watch host} {kept : Ambient World Ty R → Ambient World Ty R → Prop}
    (keeps : watch.Keeps kept) (worlds : ∀ ambient world, kept ambient { ambient with world })
    (code : UserCode World Arg R Err Out) (ambient : Ambient World Ty R) :
    ∀ deed ∈ code.deeds host watch.deeds ambient, deed.Keeps kept := by
  induction code generalizing ambient with
  | done answer =>
    intro deed member
    cases member
  | look next ih => exact ih ambient.world ambient
  | change world next ih =>
    intro deed member
    rcases List.mem_cons.mp member with rfl | rest
    · exact worlds ambient world
    · exact ih _ deed rest
  | find place call next ih =>
    intro deed member
    rcases List.mem_append.mp member with served | rest
    · exact watch.keeps_useDeeds keeps place (.find call) ambient deed served
    · exact ih _ _ deed rest
  | add place call result next ih =>
    intro deed member
    rcases List.mem_append.mp member with served | rest
    · exact watch.keeps_useDeeds keeps place (.add call result) ambient deed served
    · exact ih _ _ deed rest

end UserCode

namespace Runtime

variable (runtime : Runtime World Arg Val Ty R Err) (tooDeep : Err)

/-- The account of the host at each depth: what the user code of an argument does, and within
its requests what user code does one level deeper. -/
def watch : (depth : Nat) → Watch (runtime.host tooDeep depth)
  | 0 => { deeds := fun _ _ => [], linked := fun _ ambient => .nil ambient }
  | depth + 1 =>
    { deeds := fun arg => (runtime.code arg).deeds (runtime.host tooDeep depth) (watch depth).deeds
      linked := fun arg => (runtime.code arg).linked_deeds (watch depth) }

/-- User code changes the world and nothing else outside the library. -/
theorem keeps_watch {kept : Ambient World Ty R → Ambient World Ty R → Prop}
    (worlds : ∀ ambient world, kept ambient { ambient with world }) (depth : Nat) :
    (runtime.watch tooDeep depth).Keeps kept := by
  induction depth with
  | zero =>
    intro arg ambient deed member
    cases member
  | succ depth ih =>
    intro arg ambient
    exact (runtime.code arg).keeps_deeds ih worlds ambient

end Runtime

end DispatchCache
