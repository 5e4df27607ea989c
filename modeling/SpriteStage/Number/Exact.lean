/-!
# Exact values of doubles

A double is not a number, a signed infinity, or a signed natural mantissa times a power of two.
`Exact` is that reading.  Every rule on numbers that has to be exact (comparison with an integer,
ceiling, remainder, decimal text) is stated on it in integer arithmetic; `Exact.toFloat` and
`Double.ofRatio?` come back to doubles with one rounding to nearest, ties to the even mantissa.
-/

namespace SpriteStage

open Float.Model (UnpackedFloat)
open Float.Model.UnpackedFloat (Sign)

/-- The value of a double: `finite n m e` stands for `m * 2 ^ e`, negated if `n` is set.
    A zero has mantissa `0` and keeps its sign. -/
inductive Exact where
  | nan
  | infinite (negative : Bool)
  | finite (negative : Bool) (mantissa : Nat) (exponent : Int)
  deriving DecidableEq, Repr

namespace Exact

/-- Whether a sign is the negative one. -/
def ofSign : Sign → Bool
  | .negative => true
  | .positive => false

/-- The sign that a flag stands for. -/
def toSign (negative : Bool) : Sign :=
  if negative then .negative else .positive

/-- The value that a double holds. -/
def ofFloat (x : Float) : Exact :=
  match x.toModel.unpack with
  | .notANumber => .nan
  | .infinity s => .infinite (ofSign s)
  | .zero s => .finite (ofSign s) 0 0
  | .finite s m e _ => .finite (ofSign s) m e

/-- The double nearest to a value; of two equally near ones the one with the even mantissa.
    Values past the range become infinite. -/
def toFloat : Exact → Float
  | .nan => .ofModel (.pack .notANumber)
  | .infinite n => .ofModel (.pack (.infinity (toSign n)))
  | .finite n m e =>
    if m = 0 then .ofModel (.pack (.zero (toSign n)))
    else .ofModel (.pack (UnpackedFloat.round .binary64 (toSign n) m e))

/-- The sign flag of a value; that of not-a-number is clear. -/
def isNegative : Exact → Bool
  | .nan => false
  | .infinite n => n
  | .finite n _ _ => n

/-- Whether a value is an integer. -/
def isInteger : Exact → Bool
  | .finite _ m e => 0 ≤ e || m % Nat.pow 2 (-e).toNat == 0
  | _ => false

/-- The integer that a sign and a magnitude stand for. -/
def signed (negative : Bool) (m : Nat) : Int :=
  if negative then -(m : Int) else m

/-- The largest integer that is not above a finite value. -/
def floor? : Exact → Option Int
  | .finite n m e =>
    if 0 ≤ e then some (signed n (m * Nat.pow 2 e.toNat))
    else some (Int.fdiv (signed n m) (Nat.pow 2 (-e).toNat))
  | _ => none

/-- The smallest integer that is not below a finite value. -/
def ceil? : Exact → Option Int
  | .finite n m e => (floor? (.finite (!n) m e)).map (- ·)
  | _ => none

/-- How a value compares with an integer; nothing for not-a-number. -/
def compareInt : Exact → Int → Option Ordering
  | .nan, _ => none
  | .infinite n, _ => some (if n then .lt else .gt)
  | .finite n m e, k =>
    if 0 ≤ e then some (compare (signed n (m * Nat.pow 2 e.toNat)) k)
    else some (compare (signed n m) (k * (Nat.pow 2 (-e).toNat)))

end Exact

namespace Double

/-- Not a number. -/
def nan : Float := Exact.nan.toFloat

/-- The infinity of a sign. -/
def infinity (negative : Bool) : Float := (Exact.infinite negative).toFloat

/-- The zero of a sign. -/
def zero (negative : Bool) : Float := (Exact.finite negative 0 0).toFloat

/-- Whether the sign bit of a double is set; that of not-a-number counts as clear. -/
def isNegative (x : Float) : Bool := (Exact.ofFloat x).isNegative

/-- The double nearest to an integer; integers past the range saturate to the infinities. -/
def saturating (n : Int) : Float := (Exact.finite (n < 0) n.natAbs 0).toFloat

/-- The double nearest to an integer, or nothing if the integer rounds past the finite range. -/
def ofInt? (n : Int) : Option Float :=
  let x := saturating n
  if x.isFinite then some x else none

/-- The double nearest to the quotient of two integers, with a single rounding; nothing if the
    quotient rounds past the finite range or the divisor is zero. -/
def ofRatio? (a b : Int) : Option Float :=
  if hb : b = 0 then none
  else if ha : a = 0 then some (zero (b < 0))
  else
    let sign := Exact.toSign (decide (a < 0) != decide (b < 0))
    let x : Float := .ofModel (.pack (UnpackedFloat.div .binary64
      (.finite sign a.natAbs 0 (Int.natAbs_pos.mpr ha))
      (.finite .positive b.natAbs 0 (Int.natAbs_pos.mpr hb))))
    if x.isFinite then some x else none

/-- The integer value of an integral double. -/
def toInt? (x : Float) : Option Int :=
  let v := Exact.ofFloat x
  if v.isInteger then v.floor? else none

/-- The greatest integral double that is not above `x`; zeros, infinities and not-a-number are
    their own floor. -/
def floor (x : Float) : Float :=
  match (Exact.ofFloat x).floor? with
  | some k => if k = 0 then zero (isNegative x) else saturating k
  | none => x

end Double

end SpriteStage
