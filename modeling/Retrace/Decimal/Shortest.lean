/-!
The shortest decimal of a binary floating-point value.

A finite value is `significand * 2 ^ exponent`; every real that rounds to it lies in the interval
from halfway to the value below to halfway to the value above, ends included exactly when the
significand is even.  Among the decimals of that interval `Binary.shortest` takes one with the
fewest digits, and of those the closest.  All comparisons are exact, over the natural numbers.

* `Binary.ofBits` reads a value off its 64 bits;
* `Binary.covers` decides whether a decimal lies in the interval;
* `Binary.shortest` searches the grids `10 ^ g` from coarse to fine.
-/

namespace Retrace.Decimal

/-- A finite value without its sign, `significand * 2 ^ exponent`. -/
structure Binary where
  significand : Nat
  exponent : Int
  /-- The value below is half as far away as the value above. -/
  tightBelow : Bool
  deriving DecidableEq, Repr

/-- The decimal `digits * 10 ^ exponent`. -/
structure Scaled where
  digits : Nat
  exponent : Int
  deriving DecidableEq, Repr

/-- Which of two equally close decimals is taken. -/
inductive Tie where
  | upward
  | toEven
  deriving DecidableEq, Repr

/-- Whether the sign bit is set. -/
def signBit (bits : UInt64) : Bool := bits >>> 63 = 1

/-- The eleven bits of the exponent. -/
def exponentField (bits : UInt64) : Nat := (bits >>> 52 &&& 0x7ff).toNat

/-- The 52 bits of the fraction. -/
def fractionField (bits : UInt64) : Nat := (bits &&& 0xfffffffffffff).toNat

/-- The value that 64 bits hold, its sign bit left aside.  Infinities and NaN are no such value:
their exponent field is full. -/
def Binary.ofBits (bits : UInt64) : Binary :=
  let field := exponentField bits
  let fraction := fractionField bits
  if field = 0 then ⟨fraction, -1074, false⟩
  else ⟨0x10000000000000 + fraction, Int.ofNat field - 1075, fraction = 0 ∧ 1 < field⟩

/-- `n` times those of the powers `10 ^ i` and `2 ^ j` that are whole; a negative exponent counts as
zero. -/
def scaleUp (n : Nat) (i j : Int) : Nat :=
  n * Nat.pow 10 i.toNat * Nat.pow 2 j.toNat

/-- Compares `a * 10 ^ i` with `b * 2 ^ j`. -/
def compareScaled (a : Nat) (i : Int) (b : Nat) (j : Int) : Ordering :=
  compare (scaleUp a i (-j)) (scaleUp b (-i) j)

namespace Binary

/-- Whether the decimal rounds to the value.  The two ends of the interval are counted in quarters
of the last binary place. -/
def covers (x : Binary) (d : Scaled) : Bool :=
  let low := 4 * x.significand - (if x.tightBelow then 1 else 2)
  let high := 4 * x.significand + 2
  let fromLow := compareScaled d.digits d.exponent low (x.exponent - 2)
  let fromHigh := compareScaled d.digits d.exponent high (x.exponent - 2)
  let closed := x.significand % 2 = 0
  (fromLow = .gt ∨ closed ∧ fromLow = .eq) ∧ (fromHigh = .lt ∨ closed ∧ fromHigh = .eq)

/-- The number of whole multiples of `10 ^ g` in the value. -/
def wholeMultiples (x : Binary) (g : Int) : Nat :=
  scaleUp x.significand (-g) x.exponent / scaleUp 1 g (-x.exponent)

/-- The least `k` with the value below `10 ^ k`.  The binary logarithm gives it up to two. -/
def magnitude (x : Binary) : Int :=
  let estimate : Int := (x.significand.log2 + x.exponent) * 30103 / 100000
  let below (k : Int) : Bool := compareScaled 1 k x.significand x.exponent = .gt
  if below (estimate - 1) then estimate - 1
  else if below estimate then estimate
  else if below (estimate + 1) then estimate + 1
  else estimate + 2

/-- The decimal on the grid `10 ^ g` that rounds to the value and is closest to it, if the grid has
one.  Only the two neighbours of the value can be. -/
def onGrid (tie : Tie) (x : Binary) (g : Int) : Option Scaled :=
  let below := x.wholeMultiples g
  let hits := [(⟨below, g⟩ : Scaled), ⟨below + 1, g⟩].filter x.covers
  match hits with
  | [] => none
  | [d] => some d
  | lower :: upper :: _ =>
    match compareScaled (2 * below + 1) g (2 * x.significand) x.exponent, tie with
    | .gt, _ => some lower
    | .lt, _ => some upper
    | .eq, .upward => some upper
    | .eq, .toEven => if below % 2 = 0 then some lower else some upper

end Binary

/-- Moves trailing zeros of the digits into the exponent. -/
def Scaled.trim (d : Scaled) : Scaled :=
  if d.digits ≠ 0 ∧ d.digits % 10 = 0 then Scaled.trim ⟨d.digits / 10, d.exponent + 1⟩ else d
termination_by d.digits
decreasing_by omega

/-- The decimal with the fewest digits that rounds to a value other than zero.  Seventeen digits
are always enough; the value itself is a decimal too and stands in for a longer search. -/
def Binary.shortest (tie : Tie) (x : Binary) : Scaled :=
  let top := x.magnitude
  let found := (List.range 17).findSome? fun (i : Nat) => x.onGrid tie (top - 1 - i)
  let exact : Scaled :=
    ⟨x.significand * Nat.pow 2 x.exponent.toNat * Nat.pow 5 (-x.exponent).toNat, min x.exponent 0⟩
  (found.getD exact).trim

end Retrace.Decimal
