import DispatchCache.SharedCache.Access

/-! # User code that uses shared caches

Reading a container may run code written by users of the runtime. Such code looks at the
world, changes it, and calls shared caches, the one that is being used at the moment
included. Those calls read arguments in turn, so user code runs nested; a host is made of
it for every depth of nesting. -/

namespace DispatchCache

/-- A piece of user code that ends with a `Val` or fails. -/
inductive UserCode (World Arg R Err Val : Type) : Type where
  | done (answer : Except Err Val)
  | look (next : World → UserCode World Arg R Err Val)
  | change (world : World) (next : UserCode World Arg R Err Val)
  | find (place : Nat) (call : Capture Arg)
      (next : Except Err (Option R) → UserCode World Arg R Err Val)
  | add (place : Nat) (call : Capture Arg) (result : R)
      (next : Except Err InsertOutcome → UserCode World Arg R Err Val)

namespace UserCode

variable {World Arg R Err Val : Type}

/-- Looks at the world, changes it, and goes on with what was seen. -/
def step {α : Type} (action : World → α × World) (next : α → UserCode World Arg R Err Val) :
    UserCode World Arg R Err Val :=
  .look fun world =>
    let (seen, after) := action world
    .change after (next seen)

def mapError (f : Err → Err) : UserCode World Arg R Err Val → UserCode World Arg R Err Val
  | .done answer => .done (answer.mapError f)
  | .look next => .look fun world => (next world).mapError f
  | .change world next => .change world (next.mapError f)
  | .find place call next => .find place call fun answer => (next answer).mapError f
  | .add place call result next => .add place call result fun answer => (next answer).mapError f

/-- Runs user code; arguments of the calls it makes are read by `host`. A failing call is
an answer to the code that made it. -/
def run {Inner Ty : Type} [DecidableEq Ty] (host : Host World Arg Inner Ty R Err) :
    UserCode World Arg R Err Val → Run World Ty R Err Val
  | .done (.ok value) => return value
  | .done (.error cause) => throw cause
  | .look next => do (next (← Run.world)).run host
  | .change world next => do
    modify fun ambient => { ambient with world := world }
    next.run host
  | .find place call next => do
    let answer ← ExceptT.lift (SharedCache.find host place call).run
    (next answer).run host
  | .add place call result next => do
    let answer ← ExceptT.lift (SharedCache.add host place call result).run
    (next answer).run host

end UserCode

/-- A runtime whose arguments are read by user code. -/
structure Runtime (World Arg Val Ty R Err : Type) extends Queries World Arg Val Ty where
  code : Arg → UserCode World Arg R Err Val

/-- The host that a runtime is when user code may run `depth` levels deep. Reading an
argument below that fails with `tooDeep`. -/
def Runtime.host {World Arg Val Ty R Err : Type} [DecidableEq Ty]
    (runtime : Runtime World Arg Val Ty R Err) (tooDeep : Err) :
    Nat → Host World Arg Val Ty R Err
  | 0 => { runtime.toQueries with decontainerize := fun _ => throw tooDeep }
  | depth + 1 =>
    { runtime.toQueries with
      decontainerize := fun arg => (runtime.code arg).run (runtime.host tooDeep depth) }

end DispatchCache
