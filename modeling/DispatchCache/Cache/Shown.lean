import DispatchCache.Cache
import DispatchCache.Capture
import DispatchCache.Config
import DispatchCache.Event
import DispatchCache.Text.Shown

/-! # How caches, keys, calls and configurations are shown

A cache shows how full it is, not what it holds. Container keys show their kind only. -/

namespace DispatchCache

open Text

def CallShape.shown : CallShape → String
  | .named => "Named"
  | .zeroArity => "ZeroArity"
  | .tooWide arity => shownCall "TooWide" [toString arity]
  | .positional arity => shownCall "Positional" [toString arity]

def InsertPolicy.shown : InsertPolicy → String
  | .allowDuplicates => "AllowDuplicates"
  | .skipDuplicates => "SkipDuplicates"

def DropReason.shown : DropReason → String
  | .namedArguments => "NamedArguments"
  | .tooManyArguments => "TooManyArguments"
  | .bucketFull => "BucketFull"

def InsertOutcome.shown : InsertOutcome → String
  | .stored => "Stored"
  | .zeroArity => "ZeroArity"
  | .duplicate => "Duplicate"
  | .dropped reason => shownCall "Dropped" [reason.shown]

def ContainerKey.shown (key : ContainerKey) : String :=
  shownCall "ContainerKey" [key.kind.name ++ "@ptr"]

/-- A key with its type or slot in words. -/
def TypeKey.shownWith {Ty : Type} (type : Ty → String) (slot : ContainerKey → String) :
    TypeKey Ty → String
  | .nativeInt => "NativeInt"
  | .nativeNum => "NativeNum"
  | .nativeStr => "NativeStr"
  | .object ty => shownCall "ObjectType" [type ty]
  | .typeObject ty => shownCall "TypeObject" [type ty]
  | .writableObject key => shownCall "ObjectTypeAsWritableContainer" [slot key]
  | .writableTypeObject key => shownCall "TypeObjectAsWritableContainer" [slot key]
  | .unset => "Unset"

/-- A key that names the type whose slot it came out of. -/
def TypeKey.shownBy {Ty : Type} (type : Ty → String) (slots : SlotTable Ty) (key : TypeKey Ty) :
    String :=
  key.shownWith type fun slot => (slots.owner? slot).elim slot.shown type

def Fingerprint.shown {Ty : Type} (type : Ty → String) (fingerprint : Fingerprint Ty) : String :=
  shownList (fingerprint.keys.map (TypeKey.shownWith type ContainerKey.shown))

def SlotTable.shown {Ty : Type} [DecidableEq Ty] (slots : SlotTable Ty) (ty : Ty) : String :=
  let slot (kind : SlotKind) :=
    shownOption (if slots.isMade ty kind then some (slots.key ty kind).shown else none)
  shownRecord "ContainerKeySlots" [("instance", slot .inst), ("type_object", slot .typeObject)]

def Cache.shown {Ty R : Type} (cache : Cache Ty R) : String :=
  shownRecord "MultiCache"
    [("zero_arity", toString cache.zeroArity.isSome),
     ("buckets", shownList (cache.buckets.toList.map fun entries => toString entries.length)),
     ("policy", cache.policy.shown)]

def Capture.shown {Arg : Type} (arg : Arg → String) (call : Capture Arg) : String :=
  shownRecord "Capture"
    [("positional", shownList (call.positional.map arg)),
     ("named", shownList (call.named.map fun (name, value) =>
       shownCall "" [quoted name, arg value]))]

def Config.shown (config : Config) : String :=
  shownRecord "CacheConfig"
    [("insert_policy", config.insertPolicy.shown),
     ("collect_metrics", toString config.collectMetrics),
     ("log_filter", quoted config.logFilter)]

end DispatchCache
