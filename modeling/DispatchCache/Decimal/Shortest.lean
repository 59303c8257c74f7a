import DispatchCache.Decimal.Dyadic

/-! # Shortest digits

The fewest decimal digits that read back as a given positive float, and of those the
nearest to it. All values are counted in quarters of the smallest float, so that the
halfway points between neighbouring floats are whole numbers too. -/

namespace DispatchCache.Decimal

/-- Numerator and denominator of `n / (4 * unit)` after division by `10 ^ grid`. -/
def onGrid (n : Nat) (grid : Int) : Nat × Nat :=
  (n * Nat.pow 10 (-grid).toNat, 4 * unit * Nat.pow 10 grid.toNat)

/-- The positive numbers that read back as one float. -/
structure Interval where
  low : Nat
  value : Nat
  high : Nat
  /-- Whether the ends belong to it, as they do for an even significand. -/
  closed : Bool
  deriving DecidableEq, Repr

namespace Interval

/-- Just below a power of two, the floats are twice as dense as above it. -/
def ofFinite (significand exponent : Nat) : Interval :=
  let scale := Nat.pow 2 exponent
  let narrow := significand = Nat.pow 2 52 ∧ 0 < exponent
  { low := (4 * significand - if narrow then 1 else 2) * scale
    value := 4 * significand * scale
    high := (4 * significand + 2) * scale
    closed := significand % 2 = 0 }

/-- Whether `digits * 10 ^ grid` lies in the interval. -/
def contains (interval : Interval) (digits : Nat) (grid : Int) : Bool :=
  let (low, den) := onGrid interval.low grid
  let (high, _) := onGrid interval.high grid
  if interval.closed then low ≤ digits * den && digits * den ≤ high
  else low < digits * den && digits * den < high

/-- The nearer of the value's two neighbours on a grid that lies in the interval; of two
that are equally near, the upper one. -/
def nearestOn (interval : Interval) (grid : Int) : Option Nat :=
  let (num, den) := onGrid interval.value grid
  let below := num / den
  match interval.contains below grid, interval.contains (below + 1) grid with
  | true, true => some (if 2 * (num % den) < den then below else below + 1)
  | true, false => some below
  | false, true => some (below + 1)
  | false, false => none

/-- The exponent of the value's leading digit. Below one, the reciprocal tells it. -/
def leading (interval : Interval) : Int :=
  let whole := interval.value / (4 * unit)
  let inverse := (4 * unit - 1) / interval.value
  if 0 < whole then (Nat.toDigits 10 whole).length - 1
  else 0 - (Nat.toDigits 10 inverse).length

end Interval

/-- A positive number as digits, the first of them not zero, and the power of ten that the
first one stands for. -/
structure Digits where
  digits : List Char
  leading : Int
  deriving DecidableEq, Repr

/-- Digits of `n * 10 ^ grid`, without trailing zeros. -/
def Digits.ofGrid (n : Nat) (grid : Int) : Digits :=
  let all := Nat.toDigits 10 n
  { digits := (all.reverse.dropWhile (· = '0')).reverse
    leading := grid + all.length - 1 }

/-- The first grid on which something reads back, from one digit to seventeen. -/
def shortest (significand exponent : Nat) : Digits :=
  let interval := Interval.ofFinite significand exponent
  let leading := interval.leading
  let hit := (List.range 17).findSome? fun (more : Nat) =>
    let grid := leading - more
    (interval.nearestOn grid).map fun n => Digits.ofGrid n grid
  hit.getD ⟨['0'], 0⟩

/-- The layout of floats: powers from `10 ^ -4` to `10 ^ 15` have their digits around a
point and at least one on either side of it, all others an exponent. -/
def Digits.layOut (number : Digits) : List Char :=
  let point := number.leading
  let size : Int := number.digits.length
  if point < -4 ∨ 15 < point then
    let mantissa := match number.digits with
      | [] => []
      | [d] => [d]
      | d :: ds => d :: '.' :: ds
    mantissa ++ 'e' :: (toString point).toList
  else if point < 0 then
    ['0', '.'] ++ List.replicate (-point - 1).toNat '0' ++ number.digits
  else if size ≤ point + 1 then
    number.digits ++ List.replicate (point + 1 - size).toNat '0' ++ ['.', '0']
  else
    number.digits.take (point + 1).toNat ++ '.' :: number.digits.drop (point + 1).toNat

/-- The text of a float: shortest digits, and a sign also on a negative zero. -/
def text (x : Float) : String :=
  match Dyadic.ofFloat x with
  | .nan => "NaN"
  | .infinite negative => if negative then "-inf" else "inf"
  | .finite negative significand exponent =>
    let digits :=
      if significand = 0 then ['0', '.', '0'] else (shortest significand exponent).layOut
    String.ofList (if negative then '-' :: digits else digits)

end DispatchCache.Decimal
