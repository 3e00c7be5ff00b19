import Retrace.Decimal.Shortest

/-!
How floating-point numbers are written.

Two renderings are in use.  Computed numbers are `plain`: shortest digits, always positional, no
point on whole numbers.  Numbers quoted in a message are `marked`: a whole number keeps `.0`, and
very large and very small ones carry a power of ten.
-/

namespace Retrace.Decimal

/-- The decisions that a rendering makes beyond the choice of the shortest digits. -/
structure Rendering where
  tie : Tie
  /-- Whether a number whose leading digit stands for this power of ten is written out in full. -/
  positional : Int → Bool
  /-- Whether a whole number that is written out ends in `.0`. -/
  pointZero : Bool

/-- Every digit is written out, whole numbers have no point, and a tie goes up. -/
def plain : Rendering where
  tie := .upward
  positional _ := true
  pointZero := false

/-- Powers of ten from -5 to 15 are written out, whole numbers end in `.0`, and a tie goes to the
even digit. -/
def marked : Rendering where
  tie := .toEven
  positional e := -5 ≤ e ∧ e ≤ 15
  pointZero := true

/-- The text of `n` zeros. -/
def zeros (n : Nat) : List Char := List.replicate n '0'

namespace Rendering

/-- Digits written out in full, the first of them standing for `10 ^ lead`. -/
def writtenOut (r : Rendering) (digits : List Char) (lead : Int) : List Char :=
  if lead < 0 then '0' :: '.' :: zeros (-lead - 1).toNat ++ digits
  else
    let whole := lead.toNat + 1
    if digits.length ≤ whole then
      digits ++ zeros (whole - digits.length) ++ (if r.pointZero then ['.', '0'] else [])
    else digits.take whole ++ '.' :: digits.drop whole

/-- Digits with a point behind the first and a signed power of ten. -/
def withPower (digits : List Char) (lead : Int) : List Char :=
  let mantissa :=
    match digits with
    | first :: second :: more => first :: '.' :: second :: more
    | short => short
  mantissa ++ 'e' :: (if lead < 0 then '-' else '+') :: Nat.toDigits 10 lead.natAbs

/-- The text of a decimal without its sign. -/
def magnitude (r : Rendering) (d : Scaled) : List Char :=
  let digits := Nat.toDigits 10 d.digits
  let lead := d.exponent + digits.length - 1
  if r.positional lead then r.writtenOut digits lead else withPower digits lead

/-- The text of a number.  The sign of zero is kept. -/
def render (r : Rendering) (x : Float) : String :=
  let bits := x.toBits
  let sign := if signBit bits then ['-'] else []
  if x.isNaN then "NaN"
  else if x.isInf then String.ofList (sign ++ "inf".toList)
  else
    let b := Binary.ofBits bits
    let d : Scaled := if b.significand = 0 then ⟨0, 0⟩ else b.shortest r.tie
    String.ofList (sign ++ r.magnitude d)

end Rendering

end Retrace.Decimal
