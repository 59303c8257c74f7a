import DispatchCache.Reference.Object
import Mathlib.Data.List.Induction
import Mathlib.Tactic.SplitIfs

/-! # What cells hold

A heap is told by what happens to it: containers are made, objects are stored, containers are
fetched from, and code looks at the whole heap. At each moment a cell holds what was written into it
last, by storing through any of its containers or by making the first of them. A cell that nothing
was written into holds what it did at the start. -/

namespace DispatchCache.Reference

inductive CellEvent where
  | made (cell : Nat) (held : Object)
  | stored (container : Container) (object : Object)
  | fetched (container : Container) (object : Object)
  | looked (heap : Heap)

/-- What an event writes into a cell. -/
def CellEvent.written? (event : CellEvent) (cell : Nat) : Option Object :=
  match event with
  | .made place held => if place = cell then some held else none
  | .stored container object => if container.cell = cell then some object else none
  | .fetched _ _ | .looked _ => none

def lastWritten? (events : List CellEvent) (cell : Nat) : Option Object :=
  events.reverse.findSome? (·.written? cell)

theorem lastWritten?_append (events more : List CellEvent) (cell : Nat) :
    lastWritten? (events ++ more) cell =
      (lastWritten? more cell).or (lastWritten? events cell) := by
  simp only [lastWritten?, List.reverse_append, List.findSome?_append]

theorem lastWritten?_cons_of_some {events : List CellEvent} {cell : Nat} {object : Object}
    (written : lastWritten? events cell = some object) (event : CellEvent) :
    lastWritten? (event :: events) cell = some object := by
  rw [← List.singleton_append, lastWritten?_append, written, Option.some_or]

namespace Heap

section Cells

variable {heap : Heap} {cell other : Nat}

theorem read_store_self (there : cell < heap.cells.size) (object : Object) :
    (heap.store cell object).read cell = object := by
  simp [store, read, there]

theorem read_store_of_ne (apart : cell ≠ other) (object : Object) :
    (heap.store cell object).read other = heap.read other := by
  simp [store, read, apart]

@[simp] theorem size_store (heap : Heap) (cell : Nat) (object : Object) :
    (heap.store cell object).cells.size = heap.cells.size := by
  simp [store]

variable (type : RuntimeType) (held : Object) (writable : Bool)

theorem read_newContainer_self :
    (heap.newContainer type held writable).2.read heap.cells.size = held := by
  simp [newContainer, read]

theorem read_newContainer_of_ne (apart : cell ≠ heap.cells.size) :
    (heap.newContainer type held writable).2.read cell = heap.read cell := by
  simp [newContainer, read, Array.getElem?_push, apart]

@[simp] theorem size_newContainer :
    (heap.newContainer type held writable).2.cells.size = heap.cells.size + 1 := by
  simp [newContainer]

end Cells

/-- One event at a heap. -/
inductive Step : Heap → CellEvent → Heap → Prop where
  | made (heap : Heap) (type : RuntimeType) (held : Object) (writable : Bool) :
      Step heap (.made heap.cells.size held) (heap.newContainer type held writable).2
  | stored (heap : Heap) (container : Container) (object : Object) :
      Step heap (.stored container object) (heap.store container.cell object)
  | fetched (heap : Heap) (container : Container) :
      Step heap (.fetched container (heap.read container.cell)) heap
  | looked (heap : Heap) : Step heap (.looked heap) heap

/-- The events that lead from one heap to another. -/
inductive Told : Heap → List CellEvent → Heap → Prop where
  | nil (heap : Heap) : Told heap [] heap
  | cons {start mid stop : Heap} {event : CellEvent} {events : List CellEvent}
      (step : Step start event mid) (rest : Told mid events stop) :
      Told start (event :: events) stop

/-- Whether a cell was there at the start or has been made since. -/
def Knows (start : Heap) (events : List CellEvent) (cell : Nat) : Prop :=
  cell < start.cells.size ∨ ∃ held, .made cell held ∈ events

/-- What a cell holds after events. -/
def heldAfter (start : Heap) (events : List CellEvent) (cell : Nat) : Object :=
  (lastWritten? events cell).getD (start.read cell)

theorem heldAfter_append (start : Heap) (events more : List CellEvent) (cell : Nat) :
    start.heldAfter (events ++ more) cell =
      (lastWritten? more cell).getD (start.heldAfter events cell) := by
  unfold heldAfter
  rw [lastWritten?_append]
  cases lastWritten? more cell <;> rfl

theorem Knows.append {start : Heap} {events : List CellEvent} {cell : Nat}
    (knows : start.Knows events cell) (more : List CellEvent) :
    start.Knows (events ++ more) cell :=
  knows.imp_right fun ⟨held, made⟩ => ⟨held, List.mem_append_left more made⟩

namespace Step

variable {heap after : Heap} {event : CellEvent} {cell : Nat}

theorem lt_size_iff (step : Step heap event after) :
    cell < after.cells.size ↔ cell < heap.cells.size ∨ ∃ held, event = .made cell held := by
  cases step with
  | made type held writable =>
    simp only [size_newContainer, CellEvent.made.injEq]
    constructor
    · intro there
      exact (Nat.lt_succ_iff_lt_or_eq.mp there).imp_right fun last => ⟨held, last.symm, rfl⟩
    · rintro (there | ⟨_, rfl, -⟩)
      · exact Nat.lt_succ_of_lt there
      · exact Nat.lt_succ_self _
  | stored container object => simp
  | fetched container => simp
  | looked => simp

/-- An event changes what it writes and nothing else. -/
theorem read (step : Step heap event after) (there : cell < after.cells.size) :
    after.read cell = (event.written? cell).getD (heap.read cell) := by
  cases step with
  | made type held writable =>
    simp only [CellEvent.written?]
    split_ifs with new
    · subst new
      exact read_newContainer_self type held writable
    · exact read_newContainer_of_ne type held writable (Ne.symm new)
  | stored container object =>
    simp only [CellEvent.written?]
    split_ifs with same
    · subst same
      rw [size_store] at there
      exact read_store_self there object
    · exact read_store_of_ne same object
  | fetched container => rfl
  | looked => rfl

end Step

namespace Told

variable {start mid stop : Heap} {events more : List CellEvent} {cell : Nat}

theorem single {event : CellEvent} (step : Step start event stop) : Told start [event] stop :=
  .cons step (.nil stop)

theorem append (first : Told start events mid) (rest : Told mid more stop) :
    Told start (events ++ more) stop := by
  induction first with
  | nil => exact rest
  | cons step _ ih => exact .cons step (ih rest)

/-- A history can be cut at any moment. -/
theorem exists_of_append (whole : Told start (events ++ more) stop) :
    ∃ mid, Told start events mid ∧ Told mid more stop := by
  induction events generalizing start with
  | nil => exact ⟨start, .nil start, whole⟩
  | cons event events ih =>
    cases whole with
    | cons step rest =>
      obtain ⟨mid, first, last⟩ := ih rest
      exact ⟨mid, .cons step first, last⟩

theorem lt_size_iff (told : Told start events stop) :
    cell < stop.cells.size ↔ start.Knows events cell := by
  induction told with
  | nil => simp [Knows]
  | cons step _ ih =>
    rw [ih, Knows, Knows, step.lt_size_iff]
    simp only [List.mem_cons, exists_or, or_assoc, eq_comm]

/-- Whatever happens, a cell holds what was written into it last. -/
theorem read (told : Told start events stop) (known : start.Knows events cell) :
    stop.read cell = start.heldAfter events cell := by
  induction events using List.reverseRecOn generalizing stop with
  | nil =>
    cases told
    rfl
  | append_singleton events event ih =>
    have there := told.lt_size_iff.mpr known
    obtain ⟨mid, prior, last⟩ := told.exists_of_append
    cases last with
    | cons step done =>
      cases done
      have written : lastWritten? [event] cell = event.written? cell := by
        simp [lastWritten?]
      rw [step.read there, heldAfter_append, written]
      rcases step.lt_size_iff.mp there with before | ⟨held, rfl⟩
      · rw [ih prior (prior.lt_size_iff.mp before)]
      · -- A cell that was not there before holds what it is made with.
        simp [CellEvent.written?]

/-- What is handed out when a container is read. -/
theorem fetched_eq {container : Container} {object : Object}
    (told : Told start (events ++ .fetched container object :: more) stop)
    (known : start.Knows events container.cell) :
    object = start.heldAfter events container.cell := by
  obtain ⟨mid, prior, last⟩ := told.exists_of_append
  cases last with
  | cons step _ =>
    cases step
    exact prior.read known

/-- What is seen when the heap is looked at. -/
theorem looked_eq {heap : Heap} (told : Told start (events ++ .looked heap :: more) stop)
    (known : start.Knows events cell) : heap.read cell = start.heldAfter events cell := by
  obtain ⟨mid, prior, last⟩ := told.exists_of_append
  cases last with
  | cons step _ =>
    cases step
    exact prior.read known

end Told

end Heap

end DispatchCache.Reference
