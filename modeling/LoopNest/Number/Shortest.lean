import LoopNest.Number.Double

namespace LoopNest
namespace Number

/-!
# The fewest digits that read back

The real numbers that round to a given positive number form an interval, from
halfway to the neighbour below to halfway to the neighbour above.  Its ends
belong to it exactly when the significand is even.  Where the exponent steps,
the neighbour below is only half as far away.

The digits of a number are the fewest with which a decimal lies in that
interval; of two decimals with equally many digits the nearer one is taken,
and of two equally near ones the greater.

Everything is computed on naturals.  Lengths are counted in a unit so small
that the quarter steps of the interval and all decimals in question are whole
numbers of it: `unitsPerOne` units make one.
-/

/-- The number of units in one: a power of two for the quarter steps below the
least exponent, and a power of ten for the smallest decimals. -/
def unitsPerOne : Nat :=
  Nat.pow 2 1076 * Nat.pow 10 360

/-- The interval of reals that round to one number, measured in units. -/
structure Rounding where
  below : Nat
  value : Nat
  above : Nat
  closed : Bool

namespace Rounding

/-- The interval of a finite positive number. -/
def ofDouble (x : Double) : Rounding :=
  let quarter := Nat.pow 2 x.scale * Nat.pow 10 360
  let narrow := x.fractionBits == 0 && 1 < x.exponentBits
  { below := quarter * (4 * x.significand - if narrow then 1 else 2)
    value := quarter * (4 * x.significand)
    above := quarter * (4 * x.significand + 2)
    closed := x.significand % 2 == 0 }

/-- Does a decimal that is so many units long read back as the number? -/
def holds (interval : Rounding) (length : Nat) : Bool :=
  if interval.closed then interval.below <= length && length <= interval.above
  else interval.below < length && length < interval.above

/-- The multiple of `step` that reads back, if one does: of two, the nearer to
the value, and of two equally near ones the greater. -/
def onGrid? (interval : Rounding) (step : Nat) : Option Nat :=
  let lower := interval.value / step
  let upper := lower + 1
  match interval.holds (lower * step), interval.holds (upper * step) with
  | true, true =>
      if interval.value - lower * step < upper * step - interval.value then lower else upper
  | true, false => lower
  | false, true => upper
  | false, false => none

end Rounding

/-- A positive decimal below ten to the power `point`: its digits stand after
the decimal point that is moved `point` places to the right. -/
structure Decimal where
  digits : List Char
  point : Int

/-- The digits of a number without the zeros at its end. -/
def significantDigits (n : Nat) : List Char :=
  ((Nat.toDigits 10 n).reverse.dropWhile (· == '0')).reverse

/-- The decimal `n * 10 ^ exponent`. -/
def Decimal.ofNat (n : Nat) (exponent : Int) : Decimal :=
  { digits := significantDigits n
    point := (Nat.toDigits 10 n).length + exponent }

/-- The power of ten of the last digit when the value is written with `count`
digits.  It is counted from `10 ^ (-360)`, below which no such digit lies. -/
def gridExponent (interval : Rounding) (count : Nat) : Nat :=
  (Nat.toDigits 10 (interval.value / Nat.pow 2 1076)).length - count

/-- The fewest digits that read back as the finite positive number. -/
def shortest (x : Double) : Decimal :=
  let interval := Rounding.ofDouble x
  let onCount (count : Nat) : Option Decimal :=
    let exponent := gridExponent interval count
    let step := Nat.pow 2 1076 * Nat.pow 10 exponent
    (interval.onGrid? step).map fun n => Decimal.ofNat n (exponent - 360)
  ((List.range' 1 17).findSome? onCount).getD (Decimal.ofNat 0 0)

end Number
end LoopNest
