/-! # Container key slots

Every type owns two slots, one for its instances and one for the type itself,
that stand for "this type, bound as a writable container". A slot gets its key
when it is first asked for and keeps it for good. Keys are numbered in order of
creation, so two keys are the same exactly when they came out of the same slot. -/

namespace DispatchCache

inductive SlotKind where
  | inst
  | typeObject
  deriving DecidableEq, Repr

/-- The key a slot holds once it is made. The token alone tells keys apart. -/
structure ContainerKey where
  kind : SlotKind
  token : Nat
  deriving DecidableEq, Repr

def ContainerKey.agrees (a b : ContainerKey) : Bool := a.token == b.token

/-- The slots that have been made so far, oldest first. -/
structure SlotTable (Ty : Type) where
  made : List (Ty × SlotKind) := []
  deriving DecidableEq, Repr

namespace SlotTable

variable {Ty : Type} [DecidableEq Ty]

def isMade (table : SlotTable Ty) (ty : Ty) (kind : SlotKind) : Bool :=
  table.made.contains (ty, kind)

/-- The key of a slot: its place in the order of creation, which is the next free
number for a slot that is not made yet. -/
def key (table : SlotTable Ty) (ty : Ty) (kind : SlotKind) : ContainerKey :=
  ⟨kind, table.made.idxOf (ty, kind)⟩

def make (table : SlotTable Ty) (ty : Ty) (kind : SlotKind) : SlotTable Ty :=
  if table.isMade ty kind then table else ⟨table.made ++ [(ty, kind)]⟩

omit [DecidableEq Ty] in
/-- The type whose slot a key came out of. -/
def owner? (table : SlotTable Ty) (key : ContainerKey) : Option Ty :=
  table.made[key.token]?.map Prod.fst

theorem isMade_make (table : SlotTable Ty) (ty : Ty) (kind : SlotKind) :
    (table.make ty kind).isMade ty kind = true := by
  unfold make
  split
  · assumption
  · simp [isMade]

end SlotTable

end DispatchCache
