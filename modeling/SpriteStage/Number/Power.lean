import SpriteStage.Number.Exact

/-!
# Powers of doubles

The special cases of a power are settled here; the remaining one, a finite positive base other than
one with a finite exponent other than zero, is left to the elementary function.  A power may be real,
have no real value, divide by zero or leave the range.
-/

namespace SpriteStage.Double

/-- The outcome of raising a double to a power. -/
inductive Power where
  | real (value : Float)
  /-- A negative number to a fractional power: no real result. -/
  | imaginary
  /-- As `imaginary`, with a magnitude past the range. -/
  | imaginaryOverflow
  /-- Zero to a negative power. -/
  | zeroDivision
  /-- A finite base and exponent whose power is past the range. -/
  | overflow

/-- Whether a double is an odd integer. -/
def isOddInteger (x : Float) : Bool :=
  match toInt? x with
  | some k => k % 2 ≠ 0
  | none => false

/-- Whether a double is an integer. -/
def isInteger (x : Float) : Bool := (Exact.ofFloat x).isInteger

/-- The power of a positive finite base other than one and a finite non-zero exponent. -/
def positivePower (base exponent : Float) (negated : Bool) : Power :=
  let p := Float.pow base exponent
  if p.isInf then .overflow else .real (if negated then -p else p)

/-- `base` raised to `exponent`. -/
def power (base exponent : Float) : Power :=
  if exponent == 0 then .real 1
  else if base.isNaN then .real base
  else if exponent.isNaN then .real (if base == 1 then 1 else exponent)
  else if exponent.isInf then
    let magnitude := base.abs
    if magnitude == 1 then .real 1
    else if decide (exponent > 0) = decide (magnitude > 1) then .real exponent.abs
    else .real (zero false)
  else if base.isInf then
    -- Only odd integers keep the sign of the base.
    let odd := isOddInteger exponent
    if exponent > 0 then .real (if odd then base else base.abs)
    else .real (if odd then zero (isNegative base) else zero false)
  else if base == 0 then
    if exponent < 0 then .zeroDivision
    else .real (if isOddInteger exponent then base else zero false)
  else if base < 0 && !isInteger exponent then
    if (Float.pow base.abs exponent).isInf then .imaginaryOverflow else .imaginary
  else
    let negated := base < 0 && isOddInteger exponent
    if base.abs == 1 then .real (if negated then -1 else 1)
    else positivePower base.abs exponent negated

end SpriteStage.Double
