import Retrace.Decimal.Shortest

/-!
The exact remainder of a floating-point division.

The quotient is cut towards zero, so the remainder has the sign of the dividend.  It is always a
floating-point number itself: on the finer of the two binary grids it is smaller than one of the
two significands.
-/

namespace Retrace.Decimal

/-- The number with the bits of `x` and the sign bit of `y`. -/
def withSignOf (x y : Float) : Float :=
  if signBit y.toBits then -x.abs else x.abs

/-- The remainder of `x / y` with the quotient cut towards zero; no number if `x` is infinite or
`y` is zero. -/
def remainder (x y : Float) : Float :=
  if x.isNaN || y.isNaN || x.isInf || y == 0 then 0 / 0
  else if y.isInf then x
  else
    let a := Binary.ofBits x.toBits
    let b := Binary.ofBits y.toBits
    let grid := min a.exponent b.exponent
    let rest := scaleUp a.significand 0 (a.exponent - grid) %
      scaleUp b.significand 0 (b.exponent - grid)
    withSignOf ((Float.ofNat rest).scaleB grid) x

end Retrace.Decimal
