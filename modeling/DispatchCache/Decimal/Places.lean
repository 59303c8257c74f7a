import DispatchCache.Decimal.Dyadic

/-! # A fixed number of places

The exact value of a float, rounded to so many places after the point. -/

namespace DispatchCache.Decimal

/-- The whole number nearest to `num / den`; halfway, the even one. -/
def roundToEven (num den : Nat) : Nat :=
  let quotient := num / den
  match compare (2 * (num % den)) den with
  | .lt => quotient
  | .gt => quotient + 1
  | .eq => if quotient % 2 = 0 then quotient else quotient + 1

/-- Digits with a point in front of the last `places`. -/
def pointed (n places : Nat) : List Char :=
  let fraction := Nat.toDigits 10 (n % Nat.pow 10 places)
  Nat.toDigits 10 (n / Nat.pow 10 places) ++
    '.' :: List.replicate (places - fraction.length) '0' ++ fraction

/-- A float with `places` digits after the point. -/
def fixed (places : Nat) (x : Float) : String :=
  match Dyadic.ofFloat x with
  | .nan => "NaN"
  | .infinite negative => if negative then "-inf" else "inf"
  | .finite negative significand exponent =>
    let scaled := significand * Nat.pow 2 exponent * Nat.pow 10 places
    let digits := pointed (roundToEven scaled unit) places
    String.ofList (if negative then '-' :: digits else digits)

end DispatchCache.Decimal
