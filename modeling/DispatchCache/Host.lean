import DispatchCache.Ambient

/-! # Hosts

A host is the runtime whose calls are dispatched. The library puts a few questions to
it and lets it read arguments. A question may look at the world but not change it;
reading an argument may do anything, for it may run user code. -/

namespace DispatchCache

/-- The questions about arguments, the values they hold, and types. -/
structure Queries (World Arg Val Ty : Type) where
  isNativeStr : World → Arg → Bool
  isNativeInt : World → Arg → Bool
  isNativeNum : World → Arg → Bool
  /-- The argument's own type, which only managed objects have. For a container it is the
  type of the container. -/
  ownType : World → Arg → Option Ty
  isWritable : World → Arg → Bool
  typeOf : World → Val → Ty
  isTypeObject : World → Val → Bool
  /-- Types whose instances are references to native slots. -/
  isNativeRef : Ty → Bool

structure Host (World Arg Val Ty R Err : Type) extends Queries World Arg Val Ty where
  /-- Takes one container off the argument. -/
  decontainerize : Arg → Run World Ty R Err Val

end DispatchCache
