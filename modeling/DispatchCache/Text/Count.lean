/-! # Counts

Whole numbers of 64 bits, as they are written by hand. -/

namespace DispatchCache.Text

/-- The number that decimal digits stand for. -/
def digitsValue (digits : List Char) : Nat := digits.foldl (fun n c => 10 * n + (c.toNat - 48)) 0

/-- A count: digits, with a plus in front of them or not. Zeros in front do not matter. -/
def count? (text : String) : Option Nat :=
  let digits := match text.toList with
    | '+' :: rest => rest
    | all => all
  if digits ≠ [] && digits.all Char.isDigit then
    let value := digitsValue digits
    if value < UInt64.size then some value else none
  else none

end DispatchCache.Text
