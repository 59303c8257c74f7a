/-! # Floats as exact fractions

A finite float is a whole number times a power of two. What is printed of it is computed
from that number exactly. -/

namespace DispatchCache.Decimal

inductive Dyadic where
  | nan
  | infinite (negative : Bool)
  /-- The number `significand * 2 ^ (exponent - 1074)`. -/
  | finite (negative : Bool) (significand exponent : Nat)
  deriving DecidableEq, Repr

namespace Dyadic

/-- Reads the 64 bits of a float: sign, eleven bits of exponent, 52 bits of significand. -/
def ofBits (bits : Nat) : Dyadic :=
  let negative := bits / Nat.pow 2 63 % 2 = 1
  let biased := bits / Nat.pow 2 52 % Nat.pow 2 11
  let fraction := bits % Nat.pow 2 52
  if biased = 2047 then
    if fraction = 0 then .infinite negative else .nan
  else if biased = 0 then .finite negative fraction 0
  else .finite negative (Nat.pow 2 52 + fraction) (biased - 1)

def ofFloat (x : Float) : Dyadic := ofBits x.toBits.toNat

end Dyadic

/-- The scale of the smallest positive float: `2 ^ 1074` of them make one. -/
def unit : Nat := Nat.pow 2 1074

end DispatchCache.Decimal
