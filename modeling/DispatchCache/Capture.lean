/-! # Captured calls

A capture is the argument list of one call: positional arguments in order and
named arguments in the order they were written. Its shape is all that decides
whether a cache may be asked about the call at all. -/

namespace DispatchCache

structure Capture (Arg : Type) where
  positional : List Arg
  named : List (String × Arg) := []
  deriving DecidableEq, Repr

/-- How a call presents itself to a cache. Named arguments outweigh everything else. -/
inductive CallShape where
  | named
  | zeroArity
  | tooWide (arity : Nat)
  | positional (arity : Nat)
  deriving DecidableEq, Repr

def CallShape.isCacheable : CallShape → Bool
  | .named | .tooWide _ => false
  | .zeroArity | .positional _ => true

namespace Capture

variable {Arg : Type}

def arity (call : Capture Arg) : Nat := call.positional.length

def hasNamed (call : Capture Arg) : Bool := !call.named.isEmpty

def shape (call : Capture Arg) (maxArity : Nat) : CallShape :=
  if call.hasNamed then .named
  else if call.arity = 0 then .zeroArity
  else if maxArity < call.arity then .tooWide call.arity
  else .positional call.arity

end Capture

end DispatchCache
