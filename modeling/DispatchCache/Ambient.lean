import DispatchCache.SharedCache
import DispatchCache.Event

/-! # What a call may change

Dispatching runs code that is not its own: reading a container or resolving a call
may change the host's world, make container key slots and use shared caches. The
ambient state gathers all of it. A run that fails keeps what it changed until then. -/

namespace DispatchCache

structure Ambient (World Ty R : Type) where
  /-- The host's own state, which the library never looks into. -/
  world : World
  slots : SlotTable Ty := {}
  /-- The shared caches, named by their place. -/
  shared : List (SharedCache Ty R) := []
  /-- Everything reported so far, oldest first. -/
  log : Array Event := #[]

/-- A computation over the ambient state that may fail with `Err`. -/
abbrev Run (World Ty R Err : Type) := ExceptT Err (StateM (Ambient World Ty R))

/-- A failure with what was being worked on, as the failure has left it. -/
structure Halted (Held Err : Type) where
  cause : Err
  left : Held
  deriving DecidableEq, Repr

namespace Halted

variable {Held Whole Err : Type}

/-- To whom only the reason matters, a failure is its cause. -/
instance : CoeOut (Halted Held Err) Err := ⟨cause⟩

/-- The failure of work on a part, seen from the whole that the part belongs to. -/
def within (whole : Held → Whole) (halted : Halted Held Err) : Halted Whole Err :=
  ⟨halted.cause, whole halted.left⟩

end Halted

namespace Ambient

variable {World Ty R Err : Type}

def note (event : Event) (ambient : Ambient World Ty R) : Ambient World Ty R :=
  { ambient with log := ambient.log.push event }

/-- The key of a slot, made and reported on the first request. -/
def slotKey [DecidableEq Ty] (ty : Ty) (kind : SlotKind) (ambient : Ambient World Ty R) :
    ContainerKey × Ambient World Ty R :=
  let key := ambient.slots.key ty kind
  if ambient.slots.isMade ty kind then (key, ambient)
  else (key, { ambient with slots := ambient.slots.make ty kind }.note (.slotMade kind))

/-- A shared cache by its place; a place without one reads as never used. -/
def sharedAt (ambient : Ambient World Ty R) (place : Nat) : SharedCache Ty R :=
  ambient.shared[place]?.getD (SharedCache.empty default)

def setSharedAt (ambient : Ambient World Ty R) (place : Nat) (shared : SharedCache Ty R) :
    Ambient World Ty R :=
  { ambient with shared := ambient.shared.set place shared }

end Ambient

namespace Run

variable {World Ty R Err α : Type}

def world : Run World Ty R Err World := do return (← get).world

def report (event : Event) : Run World Ty R Err PUnit := modify (Ambient.note event)

def slotKey [DecidableEq Ty] (ty : Ty) (kind : SlotKind) : Run World Ty R Err ContainerKey :=
  modifyGet (Ambient.slotKey ty kind)

/-- The shared cache at a place, as it is now. -/
def sharedAt (place : Nat) : Run World Ty R Err (SharedCache Ty R) := do
  return (← get).sharedAt place

def setSharedAt (place : Nat) (shared : SharedCache Ty R) : Run World Ty R Err PUnit :=
  modify (Ambient.setSharedAt · place shared)

/-- A part of the work on `held` that does not touch it, whether it fails or not. -/
def holding {Held : Type} (held : Held) (run : Run World Ty R Err α) :
    Run World Ty R (Halted Held Err) α :=
  run.adapt (⟨·, held⟩)

end Run

end DispatchCache
