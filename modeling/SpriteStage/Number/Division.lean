import SpriteStage.Number.Exact

/-!
# Division with remainder on doubles

The remainder of a truncated division of two doubles is always a double, so it is computed exactly.
The floored remainder takes the sign of the divisor: where the truncated one has the other sign, the
divisor is added to it, and that sum is rounded.
-/

namespace SpriteStage.Double

/-- The remainder of the truncated division, with the sign of the dividend.  An infinite divisor
    leaves a finite dividend as it is; an infinite dividend has no remainder. -/
def truncatedMod (x y : Float) : Float :=
  match Exact.ofFloat x, Exact.ofFloat y with
  | .finite n m e, .finite _ m' e' =>
    if m' = 0 then nan
    else
      -- Both numbers are multiples of one power of two.
      let unit := min e e'
      let a := m * Nat.pow 2 (e - unit).toNat
      let b := m' * Nat.pow 2 (e' - unit).toNat
      (Exact.finite n (a % b) unit).toFloat
  | .finite _ _ _, .infinite _ => x
  | _, _ => nan

/-- The remainder of the floored division, with the sign of the divisor. -/
def flooredMod (x y : Float) : Float :=
  let r := truncatedMod x y
  if r == 0 then zero (isNegative y)
  else if decide (y < 0) != decide (r < 0) then r + y
  else r

/-- The floored quotient: the difference of the dividend and its truncated remainder over the
    divisor, one less where the signs differ, moved to the nearest integer. -/
def flooredDiv (x y : Float) : Float :=
  let r := truncatedMod x y
  let q := (x - r) / y
  let q := if r != 0 && decide (y < 0) != decide (r < 0) then q - 1 else q
  if q == 0 then zero (isNegative (x / y))
  else
    let whole := floor q
    if q - whole > 0.5 then whole + 1 else whole

end SpriteStage.Double
