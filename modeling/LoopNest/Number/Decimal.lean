import LoopNest.Number.Shortest

namespace LoopNest
namespace Number

/-!
# Numbers as text

A number is shown by the fewest digits that read back as it.  Between two
powers of ten it is written with a decimal point and at least one digit on
either side, outside of them with one digit before the point and a power of
ten, where a point that nothing follows is left out.
-/

/-- Where a decimal is written without a power of ten: its point must not be
moved further to the left than `least` nor further to the right than
`greatest`. -/
structure Positional where
  least : Int
  greatest : Int

/-- Numbers from `0.0001` up to, but not including, `10 ^ 16` are written
without a power of ten. -/
def Positional.standard : Positional :=
  ⟨-3, 16⟩

namespace Decimal

/-- Written with a decimal point and at least one digit on either side. -/
def positional (decimal : Decimal) : String :=
  if decimal.point <= 0 then
    "0." ++ String.ofList (List.replicate (-decimal.point).toNat '0' ++ decimal.digits)
  else
    let whole := decimal.point.toNat
    let missing := List.replicate (whole - decimal.digits.length) '0'
    let fraction := decimal.digits.drop whole
    String.ofList (decimal.digits.take whole ++ missing) ++ "." ++
      (if fraction.isEmpty then "0" else String.ofList fraction)

/-- Written with one digit before the point and a power of ten. -/
def scientific (decimal : Decimal) : String :=
  let fraction := decimal.digits.drop 1
  String.ofList (decimal.digits.take 1) ++
    (if fraction.isEmpty then "" else "." ++ String.ofList fraction) ++
    "e" ++ toString (decimal.point - 1)

/-- The decimal in the form that the range of positional writing asks for. -/
def text (range : Positional) (decimal : Decimal) : String :=
  if range.least <= decimal.point && decimal.point <= range.greatest then decimal.positional
  else decimal.scientific

end Decimal

/-- The number as diagnostics show it.  A NaN has no sign, a zero keeps its
own. -/
def Double.text (x : Double) : String :=
  if x.isNaN then "NaN"
  else
    (if x.isNegative then "-" else "") ++
      (if !x.isFinite then "inf"
      else if x.isZero then "0.0"
      else (shortest x).text .standard)

end Number
end LoopNest
