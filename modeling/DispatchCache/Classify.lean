import DispatchCache.Host

/-! # From arguments to fingerprints

Arguments are classified left to right, each one completely before the next is looked
at, and the first failure to read an argument ends the extraction. -/

namespace DispatchCache

variable {World Arg Val Ty R Err : Type} [DecidableEq Ty]

/-- The key of a value that was read out of a managed argument. -/
def Queries.heldKey (queries : Queries World Arg Val Ty) (world : World) (arg : Arg) (own : Ty)
    (value : Val) : Run World Ty R Err (TypeKey Ty) :=
  let held := queries.typeOf world value
  let isType := queries.isTypeObject world value
  if !queries.isWritable world arg then
    pure (if isType then .typeObject held else .object held)
  else if queries.isNativeRef own then
    pure (.object own)
  else if isType then
    .writableTypeObject <$> Run.slotKey held .typeObject
  else
    .writableObject <$> Run.slotKey held .inst

/-- The key of an argument without a type of its own. -/
def Queries.nativeKey (queries : Queries World Arg Val Ty) (world : World) (arg : Arg) :
    TypeKey Ty :=
  if queries.isNativeInt world arg then .nativeInt
  else if queries.isNativeNum world arg then .nativeNum
  else .unset

/-- The key of one argument. Native strings come first, since a native string slot may
also show a type. -/
def classify (host : Host World Arg Val Ty R Err) (arg : Arg) :
    Run World Ty R Err (TypeKey Ty) := do
  let before ← Run.world
  if host.isNativeStr before arg then
    return .nativeStr
  else
    match host.ownType before arg with
    | none => return host.nativeKey before arg
    | some own =>
      let value ← host.decontainerize arg
      host.heldKey (← Run.world) arg own value

def extractKeys (host : Host World Arg Val Ty R Err) :
    List Arg → Run World Ty R Err (List (TypeKey Ty))
  | [] => return []
  | arg :: args => do
    let key ← classify host arg
    let keys ← extractKeys host args
    return key :: keys

def extract (host : Host World Arg Val Ty R Err) (args : List Arg) :
    Run World Ty R Err (Fingerprint Ty) := do
  return ⟨← extractKeys host args⟩

end DispatchCache
