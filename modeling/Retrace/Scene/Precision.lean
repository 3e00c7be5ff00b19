/-!
Numbers of single and of double precision.

Bodies move in single precision and are drawn in double precision.

* `widen`: the same number in double precision;
* `narrow`: the nearest number of single precision.
-/

namespace Retrace

namespace Precision

open Float.Model

/-- The number of the given format that is nearest; of two equally near ones the even one. -/
def nearest (format : Format) : UnpackedFloat → UnpackedFloat
  | .finite sign mantissa exponent _ => UnpackedFloat.round format sign mantissa exponent
  | other => other

/-- The same number in double precision. -/
def widen (x : Float32) : Float := ⟨pack (nearest .binary64 x.toModel.unpack)⟩

/-- The nearest number of single precision; one that is too great becomes infinite. -/
def narrow (x : Float) : Float32 := ⟨Float32.Model.pack (nearest .binary32 x.toModel.unpack)⟩

/-- A tie goes to the even neighbour: below 16777218 every second whole number has no form. -/
example : narrow 16777217 = 16777216 ∧ narrow 16777219 = 16777220 := by decide

end Precision

end Retrace
