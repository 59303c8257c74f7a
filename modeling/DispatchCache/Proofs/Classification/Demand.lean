import DispatchCache.Proofs.Classification.Faithful
import DispatchCache.Proofs.Classification.Order

/-! # Slots on demand

A slot is made when an argument is classified that calls for it, and at no other time. It is the
value in the container that calls for the slot of its type, once it could be read, and only where
the container is bound writable and is no native reference. So the slots that are there after a run
are told by the classifications of the run, as long as nobody else makes any. -/

namespace DispatchCache

variable {World Arg Val Ty R Err : Type}

/-- An argument is classified that calls for a slot. -/
inductive Reading.Demands (reading : Reading World Arg Val Ty R Err) : Ty → SlotKind → Prop where
  | intro {own : Ty} {value : Val} {after : Ambient World Ty R}
      (managed : reading.host.isNativeStr reading.start.world reading.arg = false)
      (hasType : reading.host.ownType reading.start.world reading.arg = some own)
      (read : (reading.host.decontainerize reading.arg).eval reading.start = (.ok value, after))
      (writable : reading.host.isWritable after.world reading.arg = true)
      (ownRef : reading.host.isNativeRef own = false) :
      Demands reading (reading.host.typeOf after.world value)
        (if reading.host.isTypeObject after.world value then .typeObject else .inst)

/-- Slots are neither made nor taken away. -/
def Ambient.SameSlots (before after : Ambient World Ty R) : Prop := after.slots = before.slots

def Deed.reading? : Deed World Arg Val Ty R Err → Option (Reading World Arg Val Ty R Err)
  | .read reading => some reading
  | .change _ _ | .use _ => none

namespace Reading

variable {reading : Reading World Arg Val Ty R Err} {ty : Ty} {kind : SlotKind}

/-- What calls for a slot is the view of the argument. -/
theorem demands_iff :
    reading.Demands ty kind ↔ ∃ view, reading.view = .ok view ∧ view.slot? = some (ty, kind) := by
  constructor
  · rintro ⟨managed, hasType, read, writable, ownRef⟩
    refine ⟨.writable _ _, ?_, rfl⟩
    simp [view, Host.view, managed, hasType, read, Queries.heldView, writable, ownRef]
  · rintro ⟨view, seen, slot⟩
    rw [Reading.view, Host.view] at seen
    cases managed : reading.host.isNativeStr reading.start.world reading.arg with
    | true =>
      rw [managed, if_pos rfl] at seen
      cases seen
      cases slot
    | false =>
      rw [managed, if_neg Bool.false_ne_true] at seen
      cases hasType : reading.host.ownType reading.start.world reading.arg with
      | none =>
        simp only [hasType, Queries.nativeView] at seen
        split_ifs at seen <;> cases seen <;> cases slot
      | some type =>
        rcases read : (reading.host.decontainerize reading.arg).eval reading.start with
          ⟨cause | value, after⟩
        · simp [hasType, read] at seen
        · simp only [hasType, read, Queries.heldView] at seen
          split_ifs at seen with readOnly ownRef
          · cases seen
            cases slot
          · cases seen
            cases slot
          · cases seen
            cases slot
            exact .intro managed hasType read (by simpa using readOnly) (by simpa using ownRef)

theorem not_demands_of_fails {cause : Err} {stop : Ambient World Ty R}
    (fails : reading.Fails cause stop) : ¬ reading.Demands ty kind := by
  rintro ⟨-, -, read, -, -⟩
  cases read.symm.trans fails.2

end Reading

variable [DecidableEq Ty]

theorem SlotTable.isMade_make_iff (table : SlotTable Ty) (ty ty' : Ty) (kind kind' : SlotKind) :
    (table.make ty' kind').isMade ty kind = true ↔
      table.isMade ty kind = true ∨ (ty', kind') = (ty, kind) := by
  unfold make
  split_ifs with made
  · constructor
    · exact .inl
    · rintro (made | same)
      · exact made
      · cases same
        exact made
  · simp only [isMade, List.contains_iff_mem, List.mem_append, List.mem_singleton]
    exact or_congr_right eq_comm

theorem View.isMade_demand_iff (view : View Ty) (ambient : Ambient World Ty R) (ty : Ty)
    (kind : SlotKind) :
    (view.demand ambient).slots.isMade ty kind = true ↔
      ambient.slots.isMade ty kind = true ∨ view.slot? = some (ty, kind) := by
  unfold demand
  cases view.slot? with
  | none => simp
  | some slot =>
    rw [Option.elim_some, (ambient.slotKey_eq _ _).2, SlotTable.isMade_make_iff, Option.some_inj]

namespace Reading

variable (reading : Reading World Arg Val Ty R Err)

/-- A classification makes the slot that it calls for, besides what decontainerizing has made. -/
theorem isMade_done_iff (ty : Ty) (kind : SlotKind) :
    reading.done.2.slots.isMade ty kind = true ↔
      (reading.host.opened reading.arg reading.start).slots.isMade ty kind = true ∨
        reading.Demands ty kind := by
  rw [demands_iff, done, Host.eval_classify, Reading.view]
  cases reading.host.view reading.arg reading.start with
  | error cause => simp
  | ok view => simp [View.isMade_demand_iff]

/-- A classification that calls for no slot leaves the slots as decontainerizing has left them. -/
theorem slots_done_of_not_demands (calm : ∀ ty kind, ¬ reading.Demands ty kind) :
    reading.done.2.slots = (reading.host.opened reading.arg reading.start).slots := by
  rw [done, Host.eval_classify]
  cases seen : reading.host.view reading.arg reading.start with
  | error cause => rfl
  | ok view =>
    cases slot : view.slot? with
    | none => simp [View.demand, slot]
    | some slot' => exact absurd (demands_iff.mpr ⟨view, seen, slot⟩) (calm slot'.1 slot'.2)

section Read

variable {reading} {own : Ty} {value : Val} {after : Ambient World Ty R}
variable (managed : reading.host.isNativeStr reading.start.world reading.arg = false)
variable (hasType : reading.host.ownType reading.start.world reading.arg = some own)
variable (read : (reading.host.decontainerize reading.arg).eval reading.start = (.ok value, after))

include managed hasType read

omit [DecidableEq Ty] in
theorem opened_of_read : reading.host.opened reading.arg reading.start = after := by
  simp [Host.opened, Host.opens, managed, hasType, read]

/-- A binding that is read-only or that holds native references makes no slot. -/
theorem slots_done_of_bound
    (bound : reading.host.isWritable after.world reading.arg = false ∨
      reading.host.isNativeRef own = true) : reading.done.2.slots = after.slots := by
  rw [reading.slots_done_of_not_demands, opened_of_read managed hasType read]
  rintro ty kind ⟨-, hasType', read', writable, ownRef⟩
  cases hasType.symm.trans hasType'
  cases read.symm.trans read'
  rcases bound with readOnly | isRef
  · cases readOnly.symm.trans writable
  · cases isRef.symm.trans ownRef

/-- The type of the container gets no slot on account of the container. -/
theorem isMade_own_done (other : reading.host.typeOf after.world value ≠ own) (kind : SlotKind) :
    reading.done.2.slots.isMade own kind = after.slots.isMade own kind := by
  rw [Bool.eq_iff_iff, reading.isMade_done_iff, opened_of_read managed hasType read]
  apply or_iff_left
  intro demands
  generalize isOwn : own = ty at demands
  cases demands with
  | intro _ _ read' =>
    cases read.symm.trans read'
    exact other isOwn.symm

end Read

end Reading

/-- A run whose classifications are `readings` makes the slots that these call for and no other,
and what a classification has answered by a slot is still the key of that slot when the run ends. -/
structure Fills (start : Ambient World Ty R) (readings : List (Reading World Arg Val Ty R Err))
    (stop : Ambient World Ty R) : Prop where
  made : ∀ ty kind, stop.slots.isMade ty kind = true ↔
    start.slots.isMade ty kind = true ∨ ∃ reading ∈ readings, reading.Demands ty kind
  grows : start.Grows stop
  keyed : ∀ reading ∈ readings, ∀ key, reading.key = .ok key →
    ∃ view, reading.view = .ok view ∧ view.Keyed stop.slots ∧ key = view.key stop.slots

namespace Fills

variable {start mid stop : Ambient World Ty R}
variable {first second : List (Reading World Arg Val Ty R Err)}

theorem of_slots_eq (same : start.SameSlots stop) :
    Fills start ([] : List (Reading World Arg Val Ty R Err)) stop where
  made ty kind := by simp [show stop.slots = start.slots from same]
  grows := .of_slots_eq same
  keyed reading member := nomatch member

theorem of_reading (reading : Reading World Arg Val Ty R Err) :
    Fills (reading.host.opened reading.arg reading.start) [reading] reading.done.2 where
  made ty kind := by simp [reading.isMade_done_iff]
  grows := by
    have grows : (Deed.read reading).before.Grows (Deed.read reading).after := Deed.grows trivial
    exact grows
  keyed other member key given := by
    obtain rfl := List.mem_singleton.mp member
    exact Reading.keyed_of_key given

theorem trans (fills : Fills start first mid) (then_fills : Fills mid second stop) :
    Fills start (first ++ second) stop where
  made ty kind := by
    rw [then_fills.made, fills.made, or_assoc]
    simp only [List.mem_append, or_and_right, exists_or]
  grows := fills.grows.trans then_fills.grows
  keyed reading member key given := by
    rcases List.mem_append.mp member with early | late
    · obtain ⟨view, seen, keyed, rfl⟩ := fills.keyed reading early key given
      exact ⟨view, seen, keyed.of_prefix then_fills.grows,
        (View.key_of_prefix keyed then_fills.grows).symm⟩
    · exact then_fills.keyed reading late key given

/-- Whatever does not touch the slots may follow. -/
theorem then_same (fills : Fills start first mid) (same : mid.SameSlots stop) :
    Fills start first stop := by
  have whole := fills.trans (of_slots_eq same)
  rwa [List.append_nil] at whole

theorem isMade_of_isMade (fills : Fills start first stop) {ty : Ty} {kind : SlotKind}
    (made : start.slots.isMade ty kind = true) :
    stop.slots.isMade ty kind = true ∧ stop.slots.key ty kind = start.slots.key ty kind :=
  ⟨SlotTable.isMade_of_prefix fills.grows made, SlotTable.key_of_prefix fills.grows made⟩

end Fills

/-- Deeds fill the slots that the classifications among them call for. -/
theorem Linked.fills {start stop : Ambient World Ty R} {deeds : List (Deed World Arg Val Ty R Err)}
    (linked : Linked start deeds stop) (same : ∀ deed ∈ deeds, deed.Keeps Ambient.SameSlots) :
    Fills start (deeds.filterMap Deed.reading?) stop := by
  induction linked with
  | nil state => exact .of_slots_eq rfl
  | cons deed rest ih =>
    obtain ⟨first, later⟩ := List.forall_mem_cons.mp same
    have after := ih later
    cases deed with
    | change before now => exact (Fills.of_slots_eq first).trans after
    | read reading => exact (Fills.of_reading reading).trans after
    | use served => exact (Fills.of_slots_eq served.slots_eq).trans after

section Extraction

variable {host : Host World Arg Val Ty R Err} (watch : Watch host)

/-- What is classified while an argument is decontainerized. -/
def Watch.inner (arg : Arg) (start : Ambient World Ty R) : List (Reading World Arg Val Ty R Err) :=
  if host.opens arg start then (watch.deeds arg start).filterMap Deed.reading? else []

/-- All that is classified while arguments are extracted. -/
def Watch.classified (args : List Arg) (start : Ambient World Ty R) :
    List (Reading World Arg Val Ty R Err) :=
  (extractDeeds host watch.deeds args start).filterMap Deed.reading?

theorem Watch.classified_eq (args : List Arg) (start : Ambient World Ty R) :
    watch.classified args start = (host.readings args start).flatMap fun reading =>
      watch.inner reading.arg reading.start ++ [⟨host, reading.arg, reading.start⟩] := by
  rw [classified, Host.extractDeeds_eq, List.filterMap_flatMap]
  congr 1
  funext reading
  rw [readDeeds, List.filterMap_append, inner]
  split_ifs <;> rfl

theorem Watch.fills_extract (own : watch.Keeps Ambient.SameSlots) (args : List Arg)
    (start : Ambient World Ty R) :
    Fills start (watch.classified args start) ((extract host args).eval start).2 :=
  (watch.linked_extractDeeds args start).fills (watch.keeps_extractDeeds own args start)

theorem Watch.mem_classified_iff {args : List Arg} {start : Ambient World Ty R}
    {reading : Reading World Arg Val Ty R Err} :
    reading ∈ watch.classified args start ↔ reading ∈ host.readings args start ∨
      ∃ outer ∈ host.readings args start, reading ∈ watch.inner outer.arg outer.start := by
  have whole : ∀ outer ∈ host.readings args start,
      (⟨host, outer.arg, outer.start⟩ : Reading World Arg Val Ty R Err) = outer := by
    intro outer member
    obtain ⟨arg, -, state, rfl⟩ := Host.exists_of_mem_readings start member
    rfl
  rw [classified_eq, List.mem_flatMap]
  constructor
  · rintro ⟨outer, member, part⟩
    rcases List.mem_append.mp part with inner | last
    · exact .inr ⟨outer, member, inner⟩
    · rw [List.mem_singleton.mp last, whole outer member]
      exact .inl member
  · rintro (member | ⟨outer, member, inner⟩)
    · refine ⟨reading, member, List.mem_append_right _ ?_⟩
      rw [whole reading member]
      exact List.mem_singleton_self reading
    · exact ⟨outer, member, List.mem_append_left _ inner⟩

/-- An extraction that fails has made the slots that were called for up to the failure. -/
theorem Watch.made_of_failed_extract (own : watch.Keeps Ambient.SameSlots) {args : List Arg}
    {start stop : Ambient World Ty R} {cause : Err}
    (failed : (extract host args).eval start = (.error cause, stop)) :
    ∃ before culprit, host.readings args start = before ++ [culprit] ∧
      culprit.Fails cause stop ∧
      ∀ ty kind, stop.slots.isMade ty kind = true ↔ start.slots.isMade ty kind = true ∨
        (∃ reading ∈ before, reading.Demands ty kind) ∨
        ∃ outer ∈ before ++ [culprit], ∃ inner ∈ watch.inner outer.arg outer.start,
          inner.Demands ty kind := by
  have fills := watch.fills_extract own args start
  rw [failed] at fills
  have unread : (extractKeys host args).eval start = (.error cause, stop) :=
    (Host.eval_extract_eq_error_iff.mp failed).eval_extractKeys
  obtain ⟨culprit, member, fails⟩ := host.exists_fails_of_eval_extractKeys start unread
  obtain ⟨place, there⟩ := List.getElem?_of_mem member
  obtain ⟨length, -⟩ := host.eval_extractKeys_of_fails start there fails
  have split : host.readings args start = (host.readings args start).take place ++ [culprit] := by
    have upTo := List.take_add_one (l := host.readings args start) (i := place)
    rwa [there, ← length, List.take_length, Option.toList_some] at upTo
  refine ⟨_, culprit, split, fails, fun ty kind => ?_⟩
  rw [fills.made, ← split]
  apply or_congr_right
  constructor
  · rintro ⟨reading, classified, demands⟩
    rcases watch.mem_classified_iff.mp classified with own | ⟨outer, isOuter, inner⟩
    · rw [split] at own
      rcases List.mem_append.mp own with before | last
      · exact .inl ⟨reading, before, demands⟩
      · rw [List.mem_singleton.mp last] at demands
        exact absurd demands (Reading.not_demands_of_fails fails)
    · exact .inr ⟨outer, isOuter, reading, inner, demands⟩
  · rintro (⟨reading, before, demands⟩ | ⟨outer, isOuter, reading, inner, demands⟩)
    · exact ⟨reading, watch.mem_classified_iff.mpr (.inl (List.mem_of_mem_take before)), demands⟩
    · exact ⟨reading, watch.mem_classified_iff.mpr (.inr ⟨outer, isOuter, inner⟩), demands⟩

end Extraction

/-- User code comes by slots only through what it has classified. -/
theorem Runtime.sameSlots_watch (runtime : Runtime World Arg Val Ty R Err) (tooDeep : Err)
    (depth : Nat) : (runtime.watch tooDeep depth).Keeps Ambient.SameSlots :=
  runtime.keeps_watch tooDeep (fun _ _ => rfl) depth

end DispatchCache
