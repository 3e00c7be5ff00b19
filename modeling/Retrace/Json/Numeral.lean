import Retrace.Json.Reader

/-!
JSON numbers.

A number without a point and a power is whole as long as it fits into 64 bits; every other one is
real.  A real number is a significand of at most 64 bits, scaled by a power of ten: digits before
the point that no longer fit raise the power, digits behind it that no longer fit are dropped.

* `gather` takes digits while the number that they continue stays below a bound;
* `numeral` reads a number, `skipNumeral` only checks its form.
-/

namespace Retrace.Json

/-- What a number in a text is. -/
inductive Numeral where
  | whole (n : Int)
  | real (x : Float)

/-- Powers of ten are counted below this bound, which is that of 31 bits. -/
def powerBound : Nat := 0x80000000

/-- The absolute value of the least integer of 64 bits. -/
def lowestMagnitude : Nat := 0x8000000000000000

/-- The value of a decimal digit. -/
def digitValue (c : Char) : Nat := c.toNat - '0'.toNat

/-- Whether a digit comes next. -/
def startsWithDigit : List Char → Bool
  | c :: _ => c.isDigit
  | [] => false

/-- Takes digits off the text while the number that they continue stays below the bound. -/
def gather (bound n : Nat) : List Char → Nat × List Char
  | [] => (n, [])
  | c :: r =>
    if c.isDigit && n * 10 + digitValue c < bound then gather bound (n * 10 + digitValue c) r
    else (n, c :: r)

/-- `x` divided by the given power of ten, in steps that a float can hold. -/
def shrink (x : Float) (power : Nat) : Float :=
  if power ≤ 308 then x / Float.ofScientific 1 false power
  else if x == 0 then x
  else shrink (x / 1e308) (power - 308)
termination_by power

/-- A significand scaled by a power of ten.  It is refused if it becomes infinite. -/
def scaled (negative : Bool) (significand : Nat) (power : Int) (rest : List Char) :
    Except Failure (Float × List Char) :=
  let x := significand.toUInt64.toFloat
  let signed (y : Float) : Float := if negative then -y else y
  if power < 0 then .ok (signed (shrink x power.natAbs), rest)
  else if power ≤ 308 then
    let y := x * Float.ofScientific 1 false power.toNat
    if y.isInf then .error (.after rest .numberTooLarge) else .ok (signed y, rest)
  else if x == 0 then .ok (signed x, rest)
  else .error (.after rest .numberTooLarge)

/-- The end of a real number: a power of ten may follow. -/
def powerPart (negative : Bool) (significand : Nat) (power : Int) (s : List Char) :
    Except Failure (Float × List Char) :=
  match s with
  | [] => scaled negative significand power []
  | e :: r =>
    if e ≠ 'e' ∧ e ≠ 'E' then scaled negative significand power s
    else
      let (down, r) :=
        match r with
        | '+' :: t => (false, t)
        | '-' :: t => (true, t)
        | t => (false, t)
      if r = [] then .error (.after [] .valueCut)
      else if !startsWithDigit r then .error (.on r .badNumber)
      else
        let (shift, t) := gather powerBound 0 r
        if startsWithDigit t then
          if significand ≠ 0 ∧ !down then .error (.on t .numberTooLarge)
          else .ok (if negative then -0.0 else 0.0, t.dropWhile Char.isDigit)
        else scaled negative significand (if down then power - shift else power + shift) t

/-- The part behind a point.  At least one digit has to stand there. -/
def fractionPart (negative : Bool) (significand : Nat) (power : Int) (s : List Char) :
    Except Failure (Float × List Char) :=
  let (n, r) := gather UInt64.size significand s
  let taken := s.length - r.length
  if startsWithDigit r then powerPart negative n (power - taken) (r.dropWhile Char.isDigit)
  else if taken = 0 then .error (.on r (if r = [] then .valueCut else .badNumber))
  else powerPart negative n (power - taken) r

/-- The value of a real number. -/
def asReal : Except Failure (Float × List Char) → Except Failure (Numeral × List Char)
  | .ok (x, r) => .ok (.real x, r)
  | .error f => .error f

/-- Reads a number behind its sign. -/
def unsigned (negative : Bool) (s : List Char) : Except Failure (Numeral × List Char) :=
  match s with
  | [] => .error (.after [] .valueCut)
  | c :: r =>
    if !c.isDigit then .error (.on s .badNumber)
    else if c = '0' && startsWithDigit r then .error (.on r .badNumber)
    else
      let (n, r) := gather UInt64.size 0 s
      let more := r.takeWhile Char.isDigit
      match r.dropWhile Char.isDigit with
      | '.' :: t => asReal (fractionPart negative n more.length t)
      | t =>
        if more ≠ [] || t.head? = some 'e' || t.head? = some 'E' then
          asReal (powerPart negative n more.length t)
        else if !negative then .ok (.whole n, t)
        else if n = 0 ∨ lowestMagnitude < n then .ok (.real (-n.toUInt64.toFloat), t)
        else .ok (.whole (-n), t)

/-- Whether a number starts here. -/
def startsNumber (c : Char) : Bool := c = '-' || c.isDigit

/-- Reads a number. -/
def numeral : Reader Numeral
  | '-' :: r => unsigned true r
  | s => unsigned false s

/-! ### Checking the form -/

/-- Checks the digits of a power of ten behind its letter. -/
def skipPower (s : List Char) : Except Failure (List Char) :=
  let r :=
    match s with
    | '+' :: t => t
    | '-' :: t => t
    | t => t
  if startsWithDigit r then .ok (r.dropWhile Char.isDigit) else .error (.on r .badNumber)

/-- Checks what may follow the digits of a number. -/
def skipPowerPart (s : List Char) : Except Failure (List Char) :=
  match s with
  | 'e' :: r => skipPower r
  | 'E' :: r => skipPower r
  | r => .ok r

/-- Checks the form of a number behind its sign. -/
def skipUnsigned (s : List Char) : Except Failure (List Char) :=
  match s with
  | [] => .error (.after [] .badNumber)
  | c :: r =>
    if !c.isDigit then .error (.on s .badNumber)
    else if c = '0' && startsWithDigit r then .error (.on r .badNumber)
    else
      match s.dropWhile Char.isDigit with
      | '.' :: t =>
        if startsWithDigit t then skipPowerPart (t.dropWhile Char.isDigit)
        else .error (.on t .badNumber)
      | t => skipPowerPart t

/-- Checks the form of a number, and gives back the text behind it. -/
def skipNumeral (s : List Char) : Except Failure (List Char) :=
  match s with
  | '-' :: r => skipUnsigned r
  | r => skipUnsigned r

end Retrace.Json
