import DispatchCache.Text.Count

/-! # Values of numbers

The digits of a number are read as one whole number of 64 bits, which is then scaled by a power
of ten in one operation on floats, or in two if it is very small. The whole number and the power
are rounded before it and the result behind it, so the value need not be the float nearest to
what is written. -/

namespace DispatchCache.Json

/-- The number `significand * 10 ^ exponent`, or its opposite. -/
structure Number where
  negative : Bool
  significand : UInt64
  exponent : Int
  deriving DecidableEq, Repr

namespace Number

/-- Puts digits behind a whole number for as long as it fits. Also says how many are left over. -/
def extend (significand : UInt64) : List Char → UInt64 × Nat
  | [] => (significand, 0)
  | c :: rest =>
    let next := 10 * significand.toNat + (c.toNat - 48)
    if next < UInt64.size then extend (.ofNat next) rest else (significand, rest.length + 1)

/-- An exponent behind its mark. -/
def exponentOf (chars : List Char) : Int :=
  match chars with
  | '-' :: digits => -(Text.digitsValue digits : Int)
  | '+' :: digits | digits => Text.digitsValue digits

/-- Reads a number as it is written. Digits of the whole part that do not fit count in the
exponent; those of the fraction are dropped. -/
def ofChars (chars : List Char) : Number :=
  let unsigned := if chars.head? = some '-' then chars.drop 1 else chars
  let whole := unsigned.takeWhile Char.isDigit
  let behind := unsigned.drop whole.length
  let fraction := if behind.head? = some '.' then (behind.drop 1).takeWhile Char.isDigit else []
  let mark := if behind.head? = some '.' then behind.drop (fraction.length + 1) else behind
  let (significand, unread) := extend 0 whole
  let (significand, dropped) := extend significand fraction
  { negative := chars.head? = some '-'
    significand
    exponent := exponentOf (mark.drop 1) + (unread : Int) - (fraction.length - dropped : Nat) }

/-- The float nearest to a power of ten. -/
def power (places : Nat) : Float := Float.ofScientific 1 false places

/-- The exponent of the greatest power of ten that is a float. -/
def greatest : Nat := 308

/-- A float times a power of ten that is not beyond the greatest one. What is smaller than its
reciprocal is divided by in two steps, and past the second nothing would be left. -/
def scale (x : Float) (exponent : Int) : Float :=
  let places := exponent.natAbs
  if 0 ≤ exponent then x * power places
  else if places ≤ greatest then x / power places
  else x / power greatest / power (min (places - greatest) greatest)

/-- The size of a number, unless it is beyond the greatest float. -/
def size? (number : Number) : Option Float :=
  if number.significand = 0 then some 0
  else if greatest < number.exponent then none
  else
    let size := scale number.significand.toFloat number.exponent
    if size.isInf then none else some size

/-- The value of a number, unless it is beyond the greatest float. -/
def toFloat? (number : Number) : Option Float :=
  number.size?.map fun size => if number.negative then -size else size

end Number

end DispatchCache.Json
